import SampleData.Assets.Shipped
import SampleData.Proofs.Mask.Language
import SampleData.Proofs.Provider.Alone
import SampleData.Proofs.Provider.Sieve
import SampleData.Proofs.Provider.Supply
import SampleData.Random.Keystream

/-! # Rejected bounds

A call with bounds looks at them before it draws or stores anything, so where it rejects them the provider is the one it
was, and whatever is asked later is answered as if the call had not been made. Only a copyright line picks a legal form
before it looks at its years.
-/
namespace SampleData

open Gen

namespace Gen

variable {s t α β : Type} {step : Gen s α}

/-- From every state the step refuses its input, and leaves the state as it was. -/
def Rejects (step : Gen s α) : Prop := ∀ st, ∃ fault, step st = .error (.invalidInput fault) st

theorem rejects_throw (fault : InputFault) : Rejects (throw (.invalidInput fault) : Gen s α) := fun _ => ⟨fault, rfl⟩

theorem rejects_accept {x : Except InputFault α} {fault : InputFault} (h : x = .error fault) :
    Rejects (accept x : Gen s α) := by
  rw [h]
  exact rejects_throw fault

theorem Rejects.bind (h : Rejects step) (f : α → Gen s β) : Rejects (step >>= f) := by
  intro st
  obtain ⟨fault, ho⟩ := h st
  exact ⟨fault, bind_of_error ho⟩

theorem Rejects.map (h : Rejects step) (f : α → β) : Rejects (f <$> step) := by
  intro st
  obtain ⟨fault, ho⟩ := h st
  exact ⟨fault, map_of_error ho⟩

/-- A step on a part of the state rejects with the step on the part. -/
theorem Rejects.focus (h : Rejects step) {get : t → s} {set : t → s → t} (hset : ∀ st, set st (get st) = st) :
    Rejects (focus get set step) := by
  intro st
  obtain ⟨fault, ho⟩ := h (get st)
  refine ⟨fault, ?_⟩
  simp only [Gen.focus, ho, hset]

theorem Rejects.onFirst (h : Rejects step) : Rejects (onFirst step : Gen (s × t) α) := h.focus fun _ => rfl

theorem rejects_whole (what : String) {lower upper : ℤ} (h : upper < lower) :
    Rejects (accept (Bounds.whole what lower upper) : Gen s Unit) := rejects_accept (if_pos h)

theorem rejects_signed (what : String) {lower upper : Int32} (h : upper < lower) :
    Rejects (accept (Bounds.whole what lower.toInt upper.toInt) : Gen s Unit) :=
  rejects_whole what (Int32.lt_iff_toInt_lt.mp h)

theorem rejects_unsigned (what : String) {lower upper : UInt32} (h : upper < lower) :
    Rejects (accept (Bounds.whole what lower.toNat upper.toNat) : Gen s Unit) :=
  rejects_whole what (Int.ofNat_lt.mpr (UInt32.lt_iff_toNat_lt.mp h))

end Gen

theorem Stocked.rejects_call {σ α : Type} {step : Bundle → Gen σ α} (h : ∀ b, Rejects (step b)) :
    Rejects (Gen.onFirst (onWords step) : Gen (Stocked σ × Store) α) := by
  have hw : Rejects (onWords step) := fun x => (h x.bundle).focus (fun _ => rfl) x
  exact hw.onFirst

namespace Personal

variable {σ : Type}

theorem rejects_onWords {α : Type} {step : Bundle → Gen σ α} (h : ∀ b, Rejects (step b)) :
    Rejects (onWords step) := fun p => (h p.bundle).focus (fun _ => rfl) p

theorem rejects_textOf {step : Bundle → Gen σ String} (h : ∀ b, Rejects (step b)) : Rejects (textOf step) :=
  ((rejects_onWords h).map _).onFirst

theorem rejects_numberOf {step : Gen (Personal σ) UInt32} (h : Rejects step) : Rejects (numberOf step) :=
  (h.map _).onFirst

end Personal

namespace Bounds

/-- Bounds that no double can be drawn between: one is not a number or infinite, or their distance overflows, or they
are reversed. -/
def Unusable (lower upper : Float) : Prop :=
  lower.isNaN = true ∨ lower.isInf = true ∨ upper.isNaN = true ∨ upper.isInf = true ∨ (upper - lower).isInf = true ∨
    upper < lower

theorem isFinite_eq (x : Float) : x.isFinite = (!x.isNaN && !x.isInf) := by
  unfold Float.isFinite Float.isNaN Float.isInf Float.Model.isFinite Float.Model.isNaN Float.Model.isInf
  cases x.toModel.unpack <;> rfl

theorem exists_fault_of_unusable (what : String) {lower upper : Float} (h : Unusable lower upper) :
    ∃ fault, real what lower upper = .error fault := by
  unfold real
  split
  · exact ⟨_, rfl⟩
  · next hfinite =>
    have hlt : upper < lower := by
      simp only [isFinite_eq, Bool.or_eq_true, Bool.not_eq_true', Bool.and_eq_false_iff, Bool.not_eq_false'] at hfinite
      unfold Unusable at h
      tauto
    rw [if_pos hlt]
    exact ⟨_, rfl⟩

end Bounds

theorem Gen.rejects_real {s : Type} (what : String) {lower upper : Float} (h : Bounds.Unusable lower upper) :
    Rejects (accept (Bounds.real what lower upper) : Gen s Unit) := by
  obtain ⟨fault, he⟩ := Bounds.exists_fault_of_unusable what h
  exact rejects_accept he

namespace Builtin

inductive Rejected : (p : Builtin) → p.Call → Prop
  | age {lower upper : UInt32} (h : upper < lower) : Rejected .personal (.age lower upper)
  | weight {lower upper : UInt32} (h : upper < lower) : Rejected .personal (.weight lower upper)
  | expirationDate {lower upper : UInt32} (h : upper < lower) :
    Rejected .personal (.creditCardExpirationDate lower upper)
  | height {lower upper : Float} (h : Bounds.Unusable lower upper) : Rejected .personal (.height lower upper)
  | telephone (mask : Option String) : Rejected .personal (.telephone mask '@')
  | streetNumber : Rejected .address (.streetNumber 0)
  | price {lower upper : Float} (h : Bounds.Unusable lower upper) : Rejected .business (.price lower upper)
  | custom {lower upper : UInt32} (h : upper < lower) : Rejected .clothingSizes (.custom lower upper)
  | year {lower upper : Int32} (h : upper < lower) : Rejected .datetime (.year lower upper)
  | date {start stop : Int32} (layout : Option String) (h : stop < start) : Rejected .datetime (.date start stop layout)
  | between {lower upper : Int64} (h : upper < lower) : Rejected .numbers (.between lower upper)
  | reversedPrimes {start stop : UInt32} (h : stop < start) : Rejected .numbers (.primes start stop)
  | farPrimes {start stop : UInt32} (h : 10000000 < stop) : Rejected .numbers (.primes start stop)
  | floats {exponent : UInt32} (h : 7 < exponent) : Rejected .numbers (.floats exponent)
  | rating {greatest : Float} (h : Bounds.Unusable 0.0 greatest) : Rejected .numbers (.rating greatest)
  | weather (scale : TemperatureScale) {lower upper : Int32} (h : upper < lower) :
    Rejected .text (.weather scale lower upper)

variable {σ : Type} [WordSource σ] {p : Builtin} {call : p.Call}

/-- A call with unusable arguments is refused and leaves everything as it was. -/
theorem Rejected.rejects (h : Rejected p call) : Rejects (p.perform call : Gen (p.State σ × Store) Json) := by
  cases h with
  | age h => exact Personal.rejects_numberOf ((rejects_unsigned _ h).bind _)
  | weight h => exact Personal.rejects_numberOf (Personal.rejects_onWords fun _ => (rejects_unsigned _ h).bind _)
  | expirationDate h => exact Personal.rejects_textOf fun _ => (rejects_unsigned _ h).bind _
  | height h => exact Personal.rejects_textOf fun _ => (rejects_real _ h).bind _
  | telephone mask =>
    have hs : Placeholders.withDigit '@' = .error (.samePlaceholders '@') := rfl
    have ht : ∀ b, Rejects (Personal.telephone b mask '@' : Gen σ String) := fun _ => (rejects_accept hs).bind _
    exact Personal.rejects_textOf ht
  | streetNumber => exact Stocked.rejects_call fun _ => (rejects_throw _).map _
  | price h => exact Stocked.rejects_call fun _ => ((rejects_real _ h).bind _).map _
  | custom h => exact (((rejects_unsigned _ h).bind _).map _).onFirst
  | year h => exact Stocked.rejects_call fun _ => ((rejects_signed _ h).bind _).map _
  | date layout h => exact Stocked.rejects_call fun _ => (((rejects_signed _ h).bind _).bind _).map _
  | between h => exact (((rejects_whole _ (Int64.lt_iff_toInt_lt.mp h)).bind _).map _).onFirst
  | reversedPrimes h => exact ((rejects_accept (Numbers.primes_of_lt h)).map _).onFirst
  | farPrimes h =>
    obtain ⟨fault, he⟩ := Numbers.exists_fault_of_not_le fun hle => UInt32.not_le.mpr h hle.2
    exact ((rejects_accept he).map _).onFirst
  | @floats exponent h =>
    have hlimit : Numbers.greatestExponent < exponent := h
    have hf : Rejects (Numbers.floats exponent : Gen σ (List Float)) := by
      unfold Numbers.floats
      rw [if_pos hlimit]
      exact rejects_throw _
    exact (hf.map _).onFirst
  | rating h => exact (((rejects_real _ h).bind _).map _).onFirst
  | weather scale h => exact Stocked.rejects_call fun _ => ((rejects_signed _ h).bind _).map _

namespace Alone

/-- A query that is rejected may as well be left out of a run, but for the reply to it. -/
theorem replies_of_rejects {q : p.Query} (hq : Rejects (q.perform : Gen (p.State σ × Store) Json))
    (st : p.State σ × Store) (before later : List p.Query) : ∃ fault rest,
    replies (.ok st) (before ++ q :: later) = replies (.ok st) before ++ .error (.invalidInput fault) :: rest ∧
    replies (.ok st) (before ++ later) = replies (.ok st) before ++ rest := by
  induction before generalizing st with
  | nil =>
    obtain ⟨fault, ho⟩ := hq st
    refine ⟨fault, replies (.ok st) later, ?_, rfl⟩
    simp only [List.nil_append, replies, ask, ho, answer_error, left_error]
  | cons r before ih =>
    obtain ⟨fault, rest, hwith, hwithout⟩ := ih (left (r.perform st))
    refine ⟨fault, rest, ?_, ?_⟩
    · simp only [List.cons_append, replies, ask, hwith]
    · simp only [List.cons_append, replies, ask, hwithout]

end Alone

end Builtin

namespace Business

/-- A copyright line whose years are not in order comes to nothing but its legal form. -/
theorem copyright_of_le {σ : Type} [WordSource σ] {b : Bundle} {lower upper : UInt32} (h : upper ≤ lower) {w w' : σ}
    {kind : String} (hk : companyType b true w = .ok kind w') :
    copyright b true lower upper w = .error (.invalidInput (.foundingYears lower upper)) w' := by
  have hc : copyright b true lower upper w = _ := bind_of_ok hk
  rw [hc]
  simp only [Bool.not_true, Bool.false_eq_true, if_false, h, if_true]
  rfl

end Business

/-- Calls with bounds that are out of order or out of range, and symbols that clash, fail as invalid input and leave the
provider as it was; what is asked later is answered as if they had not been made. The same goes for a mask of digits
with the wrong symbols. A copyright line with years out of order leaves what picking a legal form leaves. -/
theorem rejections_leave_no_trace :
    (∀ {σ : Type} [WordSource σ] {p : Builtin} {call : p.Call}, p.Rejected call → ∀ st : p.State σ × Store,
      (∃ fault, p.perform call st = .error (.invalidInput fault) st) ∧
      ∀ before later : List p.Query, ∃ fault rest,
        Builtin.Alone.replies (.ok st) (before ++ .method (.typed call) :: later) =
          Builtin.Alone.replies (.ok st) before ++ .error (.invalidInput fault) :: rest ∧
        Builtin.Alone.replies (.ok st) (before ++ later) = Builtin.Alone.replies (.ok st) before ++ rest) ∧
    (∀ {σ : Type} [WordSource σ] (symbols : Placeholders) (digits : ℕ) (mask : String) (w : σ),
      symbols.countLetters mask ≠ 0 ∨ symbols.countDigits mask ≠ digits →
      ∃ fault, Mask.expandDigits symbols digits mask w = .error (.invalidInput fault) w) ∧
    ∀ {σ : Type} [WordSource σ] {x : Stocked σ} {kinds : List String},
      x.bundle.strings "company.type.abbr" = .ok kinds → kinds ≠ [] → ∀ store : Store, ∃ kind words,
        Builtin.business.perform (.companyType true) (x, store) = .ok kind ({ x with words }, store) ∧
        ∀ lower upper, upper ≤ lower → ∃ fault, Builtin.business.perform (.copyright true lower upper) (x, store) =
          .error (.invalidInput fault) ({ x with words }, store) := by
  refine ⟨?calls, ?masks, ?copyrights⟩
  case calls =>
    intro σ _ p call h st
    exact ⟨h.rejects st, Builtin.Alone.replies_of_rejects (q := .method (.typed call)) h.rejects st⟩
  case masks =>
    intro σ _ symbols digits mask w h
    refine Mask.expandDigits_of_not_counts symbols ?_ w
    rintro ⟨hl, hd⟩
    exact h.elim (· hl) (· hd)
  case copyrights =>
    intro σ _ x kinds hl hne store
    obtain ⟨kind, words, hk, _⟩ := Bundle.succeeds_pick_of_strings hl hne x.words trivial
    refine ⟨.str kind, words, ?_, fun lower upper h => ⟨.foundingYears lower upper, ?_⟩⟩
    · have ht : Business.perform x.bundle (.companyType true) x.words = .ok (.str kind) words := map_of_ok hk
      simp only [Builtin.perform, Gen.onFirst, focus, Stocked.onWords, ht]
    · have hc : Business.perform x.bundle (.copyright true lower upper) x.words = _ :=
        map_of_error (Business.copyright_of_le h hk)
      simp only [Builtin.perform, Gen.onFirst, focus, Stocked.onWords, hc]

def thirtyYearOld : Personal Keystream := ⟨default, default, .holding 30⟩

def incorporated : Stocked Keystream :=
  ⟨⟨"business", "en", .object [("company", .object [("type", .object [("abbr", .list [.str "Inc."])])])]⟩, default⟩

/-- Behind a range of ages from 40 to 20 and a height that is not a number, the stored age is still 30; a letter in a
mask of digits draws nothing, and a copyright line from 2016 to 1990 picks its legal form. -/
theorem rejections_leave_no_trace_thirtyYearOld :
    Builtin.Rejected .personal (.age 40 20) ∧ Builtin.Rejected .personal (.height 1.5 (0.0 / 0.0)) ∧
    (∃ fault fault', Builtin.Alone.replies (.ok (thirtyYearOld, Assets.store))
        ([.method (.typed (.age 40 20)), .method (.typed (.height 1.5 (0.0 / 0.0))), .method (.typed .storedAge)] :
          List (Builtin.Query .personal)) =
      [.error (.invalidInput fault), .error (.invalidInput fault'), .ok (.int 30)]) ∧
    (∃ fault, Mask.expandDigits .standard 3 "##@#" (default : Keystream) = .error (.invalidInput fault) default) ∧
    ∃ kind words fault, Builtin.business.perform (.companyType true) (incorporated, Assets.store) =
        .ok kind ({ incorporated with words }, Assets.store) ∧
      Builtin.business.perform (.copyright true 2016 1990) (incorporated, Assets.store) =
        .error (.invalidInput fault) ({ incorporated with words }, Assets.store) := by
  obtain ⟨hcalls, hmasks, hcopyrights⟩ := rejections_leave_no_trace
  have hage : Builtin.Rejected .personal (.age 40 20) := .age (by decide)
  have hheight : Builtin.Rejected .personal (.height 1.5 (0.0 / 0.0)) := .height (.inr (.inr (.inl (by decide +kernel))))
  have hkinds : incorporated.bundle.strings "company.type.abbr" = .ok ["Inc."] := rfl
  obtain ⟨kind, words, hkind, hlines⟩ := hcopyrights hkinds (by decide) Assets.store
  obtain ⟨fault, hline⟩ := hlines 2016 1990 (by decide)
  refine ⟨hage, hheight, ?_, hmasks _ _ _ _ (.inl (by decide +kernel)), kind, words, fault, hkind, hline⟩
  obtain ⟨fault, rest, hwith, hrest⟩ := (hcalls hage (thirtyYearOld, Assets.store)).2 []
    [.method (.typed (.height 1.5 (0.0 / 0.0))), .method (.typed .storedAge)]
  obtain ⟨fault', rest', hwith', hrest'⟩ := (hcalls hheight (thirtyYearOld, Assets.store)).2 []
    [.method (.typed .storedAge)]
  have hstored : rest' = [.ok (.int 30)] := hrest'.symm
  have hheight' : rest = .error (.invalidInput fault') :: rest' := hrest.symm.trans hwith'
  refine ⟨fault, fault', hwith.trans ?_⟩
  rw [hheight', hstored]
  rfl

end SampleData
