import SampleData.Proofs.Checksum.Identifiers
import SampleData.Proofs.Personal.StoredAge
import SampleData.Proofs.Provider.Supply
import SampleData.Proofs.Random.Reached
import SampleData.Proofs.Random.Wrapping
import SampleData.Provider.Address
import SampleData.Provider.Business
import SampleData.Provider.ClothingSizes
import SampleData.Provider.Datetime
import SampleData.Provider.Numbers

/-! # Numbers of a range

A call with whole bounds answers with a number between them, whatever words the source yields, and every number
between them is the answer for some stream of words. Where the answer is a text that the number stands in, the number
can be read off it. This covers bounds that are equal and the range of all numbers of the type.
-/
namespace SampleData

open Gen

namespace Gen

variable {α β : Type}

/-- Whatever is to be left behind, there is a stream from which the step answers so. -/
def Reaches (step : Gen WordStream α) (a : α) : Prop := ∀ rest, ∃ s, step s = .ok a rest

theorem reaches_pure (a : α) : Reaches (pure a) a := fun rest => ⟨rest, rfl⟩

theorem Reaches.bind {x : Gen WordStream α} {f : α → Gen WordStream β} {a : α} {b : β} (hx : Reaches x a)
    (hf : Reaches (f a) b) : Reaches (x >>= f) b := by
  intro rest
  obtain ⟨mid, hm⟩ := hf rest
  obtain ⟨s, hs⟩ := hx mid
  exact ⟨s, (bind_of_ok hs).trans hm⟩

theorem reaches_draw {step : StateM WordStream α} {a : α} (h : Random.Reaches step a) : Reaches (draw step) a := by
  intro rest
  obtain ⟨s, hs⟩ := h rest
  refine ⟨s, ?_⟩
  simp only [draw, hs]

end Gen

/-- A text that was picked once is picked from some stream. -/
theorem Bundle.reaches_pick {σ : Type} [WordSource σ] {b : Bundle} {path text : String} {w w' : σ}
    (h : b.pick path w = .ok text w') : Reaches (b.pick path) text := by
  cases hl : b.list path with
  | error fault =>
    simp only [pick, hl] at h
    cases h
  | ok items =>
    simp only [pick, hl] at h ⊢
    have hreached := Random.reaches_of_choose? items w
    rw [bind_draw_apply] at h
    cases hc : (Random.choose? items w).1 with
    | none =>
      rw [hc] at h
      cases h
    | some item =>
      rw [hc] at h hreached
      refine (reaches_draw hreached).bind ?_
      cases ht : b.stringItem path item with
      | error fault =>
        simp only [ht] at h
        cases h
      | ok picked =>
        simp only [ht] at h ⊢
        cases h
        exact reaches_pure _

/-- A call that covers a range. `shows a v` holds where the answer `a` shows the value `v`, and `admitted` holds of
bounds that are not refused. -/
structure Covers {α β : Type} (step : ∀ (σ : Type) [WordSource σ], Gen σ α) (admitted : Prop) (shows : α → β → Prop)
    (inRange : β → Prop) : Prop where
  legible : ∀ {a v v'}, shows a v → shows a v' → v = v'
  answered : admitted → ∀ {σ : Type} [WordSource σ] (w : σ), ∃ a w', step σ w = .ok a w'
  inside : ∀ {σ : Type} [WordSource σ] {w w' : σ} {a}, step σ w = .ok a w' → ∃ v, shows a v ∧ inRange v
  /-- Where there is an answer at all, every value of the range is shown by the answer from some stream. -/
  onto : ∀ {σ : Type} [WordSource σ] {w w' : σ} {a}, step σ w = .ok a w' →
    ∀ v, inRange v → ∃ a, shows a v ∧ Gen.Reaches (step WordStream) a

/-- With admitted bounds every value of the range is shown for some stream. -/
theorem Covers.exists_stream {α β : Type} {step : ∀ (σ : Type) [WordSource σ], Gen σ α} {admitted : Prop}
    {shows : α → β → Prop} {inRange : β → Prop} (h : Covers step admitted shows inRange) (ha : admitted) {v : β}
    (hv : inRange v) : ∃ s a rest, step WordStream s = .ok a rest ∧ shows a v := by
  obtain ⟨_, _, ho⟩ := h.answered ha WordStream.zeros
  obtain ⟨a, hs, hr⟩ := h.onto ho v hv
  obtain ⟨s, hs'⟩ := hr WordStream.zeros
  exact ⟨s, a, WordStream.zeros, hs', hs⟩

section Drawn

variable {α β : Type} {shows : α → β → Prop} {inRange : β → Prop} {admitted : Prop}

/-- A call that is a draw with admitted bounds and is refused with others. -/
theorem covers_of_draw {step : ∀ (σ : Type) [WordSource σ], Gen σ α} (drawn : ∀ (σ : Type) [WordSource σ], StateM σ α)
    (hdrawn : admitted → ∀ (σ : Type) [WordSource σ], step σ = draw (drawn σ))
    (hrefused : ¬ admitted → ∀ (σ : Type) [WordSource σ] (w : σ), ∃ e w', step σ w = .error e w')
    (hlegible : ∀ {a v v'}, shows a v → shows a v' → v = v')
    (hinside : admitted → ∀ (σ : Type) [WordSource σ], Random.Draws (drawn σ) fun a => ∃ v, shows a v ∧ inRange v)
    (honto : ∀ v, inRange v → ∃ a, shows a v ∧ Random.Reaches (drawn WordStream) a) :
    Covers step admitted shows inRange := by
  have hadmitted : ∀ {σ : Type} [WordSource σ] {w w' : σ} {a}, step σ w = .ok a w' → admitted := by
    intro σ _ w w' a ho
    by_contra hn
    obtain ⟨e, _, he⟩ := hrefused hn σ w
    rw [he] at ho
    cases ho
  refine ⟨hlegible, ?answered, ?inside, ?onto⟩
  case answered =>
    intro ha σ _ w
    rw [hdrawn ha σ]
    exact ⟨_, _, rfl⟩
  case inside =>
    intro σ _ w w' a ho
    have ha := hadmitted ho
    rw [hdrawn ha σ] at ho
    cases ho
    exact hinside ha σ w
  case onto =>
    intro σ _ w w' a ho v hv
    obtain ⟨text, hs, hr⟩ := honto v hv
    rw [hdrawn (hadmitted ho) WordStream]
    exact ⟨text, hs, reaches_draw hr⟩

/-- The same of a call that answers with the value itself. -/
theorem covers_of_draw_self {step : ∀ (σ : Type) [WordSource σ], Gen σ β}
    (drawn : ∀ (σ : Type) [WordSource σ], StateM σ β)
    (hdrawn : admitted → ∀ (σ : Type) [WordSource σ], step σ = draw (drawn σ))
    (hrefused : ¬ admitted → ∀ (σ : Type) [WordSource σ] (w : σ), ∃ e w', step σ w = .error e w')
    (hinside : admitted → ∀ (σ : Type) [WordSource σ], Random.Draws (drawn σ) inRange)
    (honto : ∀ v, inRange v → Random.Reaches (drawn WordStream) v) : Covers step admitted Eq inRange := by
  refine covers_of_draw drawn hdrawn hrefused ?legible ?inside fun v hv => ⟨v, rfl, honto v hv⟩
  case legible =>
    rintro a v v' rfl rfl
    rfl
  case inside =>
    intro ha σ _
    exact (hinside ha σ).imp fun v hv => ⟨v, rfl, hv⟩

theorem covers_of_whole (what : String) {lower upper : ℤ} (drawn : ∀ (σ : Type) [WordSource σ], StateM σ β)
    (h : admitted ↔ lower ≤ upper) (hinside : admitted → ∀ (σ : Type) [WordSource σ], Random.Draws (drawn σ) inRange)
    (honto : ∀ v, inRange v → Random.Reaches (drawn WordStream) v) :
    Covers (fun σ _ => do Gen.accept (Bounds.whole what lower upper); draw (drawn σ)) admitted Eq inRange := by
  refine covers_of_draw_self drawn ?drawn ?refused hinside honto
  case drawn =>
    intro ha σ _
    exact accept_whole_of_le what (h.mp ha) _
  case refused =>
    intro hn σ _ w
    exact ⟨_, _, accept_whole_of_lt what (Int.not_le.mp (h.not.mp hn)) _ w⟩

end Drawn

theorem covers_between (lower upper : Int64) : Covers (fun _ _ => Numbers.between lower upper)
    (lower.toInt ≤ upper.toInt) Eq fun n => lower.toInt ≤ n.toInt ∧ n.toInt ≤ upper.toInt :=
  covers_of_whole "between" _ Iff.rfl (fun h _ _ => Random.signedWide_mem h)
    fun _ hn => Random.reaches_signedWide hn.1 hn.2

theorem covers_year (lower upper : Int32) : Covers (fun _ _ => Datetime.year lower upper)
    (lower.toInt ≤ upper.toInt) Eq fun n => lower.toInt ≤ n.toInt ∧ n.toInt ≤ upper.toInt :=
  covers_of_whole "year" _ Iff.rfl (fun h _ _ => Random.signed_mem h) fun _ hn => Random.reaches_signed hn.1 hn.2

section Unsigned

variable (lower upper : UInt32)

theorem le_iff_toNat_le_cast : lower ≤ upper ↔ (lower.toNat : ℤ) ≤ upper.toNat :=
  UInt32.le_iff_toNat_le.trans Int.ofNat_le.symm

theorem covers_weight : Covers (fun _ _ => Personal.weight lower upper) (lower ≤ upper) Eq
    fun n => lower ≤ n ∧ n ≤ upper :=
  covers_of_whole "weight" _ (le_iff_toNat_le_cast lower upper) (fun h _ _ => Random.draws_unsigned h)
    fun _ hn => Random.reaches_unsigned hn.1 hn.2

theorem covers_custom : Covers (fun _ _ => ClothingSizes.custom lower upper) (lower ≤ upper) Eq
    fun n => lower ≤ n ∧ n ≤ upper :=
  covers_of_whole "clothing size" _ (le_iff_toNat_le_cast lower upper) (fun h _ _ => Random.draws_unsigned h)
    fun _ hn => Random.reaches_unsigned hn.1 hn.2

/-- Of the provider, an age only moves the source of words, whatever bundle and stored age there are. -/
theorem covers_age (bundle : Bundle) (stored : Slot UInt32) :
    Covers (fun _ _ w => withState Personal.words (Personal.age lower upper ⟨bundle, w, stored⟩)) (lower ≤ upper) Eq
      fun n => lower ≤ n ∧ n ≤ upper := by
  refine covers_of_draw_self (fun _ _ => Random.unsigned lower upper) ?drawn ?refused
    (fun h _ _ => Random.draws_unsigned h) fun _ hn => Random.reaches_unsigned hn.1 hn.2
  case drawn =>
    intro h σ _
    funext w
    rw [Personal.age_of_le h]
    rfl
  case refused =>
    intro h σ _ w
    rw [Personal.age_of_lt (UInt32.not_le.mp h)]
    exact ⟨_, _, rfl⟩

end Unsigned

theorem toString_toNat_inj {m n : UInt32} (h : (toString m.toNat).toList = (toString n.toNat).toList) : m = n := by
  have hnumber := congrArg Text.number h
  rw [Text.number_toString, Text.number_toString] at hnumber
  exact UInt32.toNat_inj.mp hnumber

def ShowsNumber (text : String) (n : UInt32) : Prop := text = toString n.toNat

/-- House numbers cover the range from one to the greatest. -/
theorem covers_streetNumber (greatest : UInt32) : Covers (fun _ _ => Address.streetNumber greatest) (greatest ≠ 0)
    ShowsNumber fun n => 1 ≤ n ∧ n ≤ greatest := by
  refine covers_of_draw (fun _ _ => do return toString (← Random.unsigned 1 greatest).toNat) ?drawn ?refused ?legible
    ?inside ?onto
  case drawn =>
    intro h σ _
    unfold Address.streetNumber
    rw [if_neg h]
    rfl
  case refused =>
    rintro h σ _ w
    rw [not_not.mp h]
    exact ⟨_, _, rfl⟩
  case legible =>
    rintro text n n' rfl h
    exact toString_toNat_inj (congrArg String.toList h)
  case inside =>
    intro h σ _
    have hone : 1 ≤ greatest := by
      rw [UInt32.le_iff_toNat_le]
      exact Nat.one_le_iff_ne_zero.mpr fun h0 => h (UInt32.toNat_inj.mp h0)
    exact (Random.draws_unsigned hone).bind fun n hn => Random.draws_pure ⟨n, rfl, hn⟩
  case onto =>
    intro n hn
    exact ⟨_, rfl, (Random.reaches_unsigned hn.1 hn.2).bind (Random.reaches_pure _)⟩

def ShowsExpiry (text : String) (year : UInt32) : Prop :=
  ∃ month : UInt32, (1 ≤ month ∧ month ≤ 12) ∧ text = padded 2 month.toNat ++ "/" ++ toString year.toNat

theorem ShowsExpiry.unique {text : String} {year year' : UInt32} (h : ShowsExpiry text year)
    (h' : ShowsExpiry text year') : year = year' := by
  obtain ⟨month, _, rfl⟩ := h
  obtain ⟨month', _, ht⟩ := h'
  have hslash : "/".toList = ['/'] := rfl
  have hchars := congrArg String.toList ht
  simp only [String.toList_append, hslash, List.append_assoc, List.singleton_append] at hchars
  exact toString_toNat_inj ((Text.areDigits_padded 2 _).append_cons_inj (Text.areDigits_padded 2 _) rfl hchars).2

theorem covers_creditCardExpirationDate (lower upper : UInt32) :
    Covers (fun _ _ => Personal.creditCardExpirationDate lower upper) (lower ≤ upper) ShowsExpiry
      fun year => lower ≤ year ∧ year ≤ upper := by
  have hle := le_iff_toNat_le_cast lower upper
  refine covers_of_draw (fun _ _ => do
    let month ← Random.unsigned 1 12
    let year ← Random.unsigned lower upper
    return padded 2 month.toNat ++ "/" ++ toString year.toNat) ?drawn ?refused ShowsExpiry.unique ?inside ?onto
  case drawn =>
    intro h σ _
    unfold Personal.creditCardExpirationDate
    rw [accept_whole_of_le _ (hle.mp h)]
    rfl
  case refused =>
    intro h σ _ w
    exact ⟨_, _, accept_whole_of_lt _ (Int.not_le.mp (hle.not.mp h)) _ w⟩
  case inside =>
    intro h σ _
    have hmonth : (1 : UInt32) ≤ 12 := by decide
    refine (Random.draws_unsigned hmonth).bind fun month hm => (Random.draws_unsigned h).bind fun year hy => ?_
    exact Random.draws_pure ⟨year, ⟨month, hm, rfl⟩, hy⟩
  case onto =>
    intro year hy
    have hone : Random.Reaches (Random.unsigned 1 12) 1 := Random.reaches_unsigned (by decide) (by decide)
    refine ⟨_, ⟨1, by decide, rfl⟩, hone.bind ?_⟩
    exact (Random.reaches_unsigned hy.1 hy.2).bind (Random.reaches_pure _)

def ShowsFounding (upper : UInt32) (text : String) (founded : UInt32) : Prop := ∃ owner kind : String,
  text = "© " ++ toString founded.toNat ++ "-" ++ toString upper.toNat ++ " " ++ owner ++ ", " ++ kind

theorem ShowsFounding.unique {upper : UInt32} {text : String} {founded founded' : UInt32}
    (h : ShowsFounding upper text founded) (h' : ShowsFounding upper text founded') : founded = founded' := by
  obtain ⟨owner, kind, rfl⟩ := h
  obtain ⟨owner', kind', ht⟩ := h'
  have hstart : "© ".toList = ['©', ' '] := rfl
  have hdash : "-".toList = ['-'] := rfl
  have hchars := congrArg String.toList ht
  simp only [String.toList_append, hstart, hdash, List.append_assoc, List.cons_append, List.nil_append,
    List.cons.injEq, true_and] at hchars
  exact toString_toNat_inj ((Text.areDigits_toString _).append_cons_inj (Text.areDigits_toString _) rfl hchars).1

section Copyright

variable (b : Bundle) {lower upper : UInt32}

def copyrightPaths : List String := ["company.type.abbr", "company.name"]

theorem copyright_of_lt {σ : Type} [WordSource σ] (h : lower < upper) :
    (Business.copyright b true lower upper : Gen σ String) = do
      let kind ← b.pick "company.type.abbr"
      let founded ← draw (Random.unsigned lower (upper - 1))
      let owner ← b.pick "company.name"
      return "© " ++ toString founded.toNat ++ "-" ++ toString upper.toNat ++ " " ++ owner ++ ", " ++ kind := by
  have hn : ¬ upper ≤ lower := UInt32.not_le.mpr h
  unfold Business.copyright Business.companyType Business.company
  simp only [Bool.not_true, Bool.false_eq_true, if_false, if_true, hn]

theorem lt_of_copyright {σ : Type} [WordSource σ] {w w' : σ} {text : String}
    (h : Business.copyright b true lower upper w = .ok text w') : lower < upper := by
  by_contra hn
  obtain ⟨kind, mid, _, hk⟩ := exists_of_bind_ok h
  simp only [Bool.not_true, Bool.false_eq_true, if_false, UInt32.not_lt.mp hn, if_true] at hk
  cases hk

theorem le_sub_one_iff (h : lower < upper) (n : UInt32) : n ≤ upper - 1 ↔ n < upper := by
  have hone : (1 : UInt32).toNat = 1 := rfl
  rw [UInt32.lt_iff_toNat_lt] at h
  have hle : (1 : UInt32) ≤ upper := by
    rw [UInt32.le_iff_toNat_le]
    omega
  rw [UInt32.le_iff_toNat_le, UInt32.lt_iff_toNat_lt, UInt32.toNat_sub_of_le _ _ hle]
  omega

/-- The founding year covers the years strictly before the later one. -/
theorem covers_copyright : Covers (fun _ _ => Business.copyright b true lower upper)
    (lower < upper ∧ b.stocks copyrightPaths = true) (ShowsFounding upper) fun n => lower ≤ n ∧ n < upper := by
  refine ⟨ShowsFounding.unique, ?answered, ?inside, ?onto⟩
  case answered =>
    rintro ⟨h, hs⟩ σ _ w
    have hpick : ∀ path ∈ copyrightPaths, Succeeds Anywhere (b.pick path : Gen σ String) Any := fun path hp =>
      Bundle.succeeds_pick_of_stocks hs hp
    have hsucceeds : Succeeds Anywhere (Business.copyright b true lower upper : Gen σ String) Any := by
      rw [copyright_of_lt b h]
      refine (hpick _ (by decide)).bind fun kind _ => (succeeds_drawn _).bind fun founded _ => ?_
      exact (hpick _ (by decide)).bind fun owner _ => succeeds_pure trivial
    obtain ⟨text, w', ho, _, _⟩ := hsucceeds w trivial
    exact ⟨text, w', ho⟩
  case inside =>
    intro σ _ w w' text ho
    have h := lt_of_copyright b ho
    have hlast := le_sub_one_iff h
    rw [copyright_of_lt b h] at ho
    obtain ⟨kind, mid, _, hk⟩ := exists_of_bind_ok ho
    obtain ⟨founded, mid', hf, hf'⟩ := exists_of_bind_ok hk
    obtain ⟨owner, mid'', _, ht⟩ := exists_of_bind_ok hf'
    cases ht
    cases hf
    have hm := Random.unsigned_mem ((hlast lower).mpr h) mid
    exact ⟨_, ⟨owner, kind, rfl⟩, hm.1, (hlast _).mp hm.2⟩
  case onto =>
    rintro σ _ w w' text ho n ⟨hn, hn'⟩
    have h := lt_of_copyright b ho
    have hlast := le_sub_one_iff h
    rw [copyright_of_lt b h] at ho ⊢
    obtain ⟨kind, mid, hk, hf⟩ := exists_of_bind_ok ho
    obtain ⟨_, mid', _, hf'⟩ := exists_of_bind_ok hf
    obtain ⟨owner, mid'', hw, _⟩ := exists_of_bind_ok hf'
    refine ⟨_, ⟨owner, kind, rfl⟩, (Bundle.reaches_pick hk).bind ?_⟩
    refine (reaches_draw (Random.reaches_unsigned hn ((hlast n).mpr hn'))).bind ?_
    exact (Bundle.reaches_pick hw).bind (reaches_pure _)

end Copyright

/-- Every call with whole bounds covers its range, whatever the bounds are, and its draw is the one that is made on
words, where the length of the range wraps. -/
theorem ranges_covered :
    (∀ lower upper : Int64, Covers (fun _ _ => Numbers.between lower upper) (lower.toInt ≤ upper.toInt) Eq
      fun n => lower.toInt ≤ n.toInt ∧ n.toInt ≤ upper.toInt) ∧
    (∀ lower upper : Int32, Covers (fun _ _ => Datetime.year lower upper) (lower.toInt ≤ upper.toInt) Eq
      fun n => lower.toInt ≤ n.toInt ∧ n.toInt ≤ upper.toInt) ∧
    (∀ lower upper : UInt32,
      (∀ bundle stored, Covers
        (fun _ _ w => withState Personal.words (Personal.age lower upper ⟨bundle, w, stored⟩)) (lower ≤ upper) Eq
          fun n => lower ≤ n ∧ n ≤ upper) ∧
      Covers (fun _ _ => Personal.weight lower upper) (lower ≤ upper) Eq (fun n => lower ≤ n ∧ n ≤ upper) ∧
      Covers (fun _ _ => ClothingSizes.custom lower upper) (lower ≤ upper) Eq (fun n => lower ≤ n ∧ n ≤ upper) ∧
      Covers (fun _ _ => Personal.creditCardExpirationDate lower upper) (lower ≤ upper) ShowsExpiry
        (fun year => lower ≤ year ∧ year ≤ upper) ∧
      ∀ b : Bundle, Covers (fun _ _ => Business.copyright b true lower upper)
        (lower < upper ∧ b.stocks copyrightPaths = true) (ShowsFounding upper) fun n => lower ≤ n ∧ n < upper) ∧
    (∀ greatest : UInt32, Covers (fun _ _ => Address.streetNumber greatest) (greatest ≠ 0) ShowsNumber
      fun n => 1 ≤ n ∧ n ≤ greatest) ∧
    ∀ {σ : Type} [WordSource σ],
      (∀ {lower upper : UInt32}, lower ≤ upper → (Random.unsigned lower upper : StateM σ UInt32) =
        UInt32.ofBitVec <$> Random.betweenWords .single lower.toBitVec upper.toBitVec) ∧
      (∀ {lower upper : Int32}, lower.toInt ≤ upper.toInt → (Random.signed lower upper : StateM σ Int32) =
        (fun word => Int32.ofUInt32 (UInt32.ofBitVec word)) <$>
          Random.betweenWords .single lower.toBitVec upper.toBitVec) ∧
      ∀ {lower upper : Int64}, lower.toInt ≤ upper.toInt → (Random.signedWide lower upper : StateM σ Int64) =
        (fun word => Int64.ofUInt64 (UInt64.ofBitVec word)) <$>
          Random.betweenWords .double lower.toBitVec upper.toBitVec := by
  refine ⟨covers_between, covers_year, ?_, covers_streetNumber, ?_⟩
  · intro lower upper
    exact ⟨covers_age lower upper, covers_weight lower upper, covers_custom lower upper,
      covers_creditCardExpirationDate lower upper, fun b => covers_copyright b⟩
  · intro σ _
    exact ⟨Random.unsigned_eq_words, Random.signed_eq_words, Random.signedWide_eq_words⟩

/-- The range of all numbers, equal bounds, and the last founding year before the greatest one. -/
theorem ranges_covered_at_ends :
    (∀ n : Int64, ∃ s rest : WordStream, Numbers.between Int64.minValue Int64.maxValue s = .ok n rest) ∧
    (∀ s : WordStream, ∃ rest, Personal.weight 7 7 s = .ok 7 rest) ∧
    ∃ (s : WordStream) (text : String) (rest : WordStream), Business.copyright
      ⟨"business", "en", .ofFields [("company", .ofFields [("name", .list [.str "Acme"]),
        ("type", .ofFields [("abbr", .list [.str "Inc."])])])]⟩ true 0 4294967295 s = .ok text rest ∧
        ShowsFounding 4294967295 text 4294967294 := by
  obtain ⟨hbetween, -, hunsigned, -⟩ := ranges_covered
  refine ⟨fun n => ?_, fun s => ?_, ?_⟩
  · have hn : Int64.minValue.toInt ≤ n.toInt ∧ n.toInt ≤ Int64.maxValue.toInt :=
      ⟨n.minValue_le_toInt, n.toInt_le⟩
    obtain ⟨s, _, rest, ho, rfl⟩ := (hbetween _ _).exists_stream (hn.1.trans hn.2) hn
    exact ⟨s, rest, ho⟩
  · have hweight := (hunsigned 7 7).2.1
    obtain ⟨n, rest, ho⟩ := hweight.answered (by decide) s
    obtain ⟨_, rfl, hleast, hmost⟩ := hweight.inside ho
    rw [UInt32.le_antisymm hmost hleast] at ho
    exact ⟨rest, ho⟩
  · exact ((hunsigned 0 4294967295).2.2.2.2 _).exists_stream ⟨by decide, by decide⟩ (by decide)

end SampleData
