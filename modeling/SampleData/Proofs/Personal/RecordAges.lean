import SampleData.Proofs.Facade.Unfailing
import SampleData.Proofs.Personal.StoredAge

/-! # Ages of records

The age is the first field of a record. It takes the place of whatever age was stored, and the number of children and
the years of work are made from it right after it. No field behind them changes the stored age, so a run of records
leaves the age of its last one behind, and a run of none leaves what it found.
-/
namespace SampleData

namespace Personal

variable {σ : Type} [WordSource σ]

/-- A record in which the number of children and the years of work go by the age of the record itself. -/
structure AgeRecord (age : UInt32) (record : Json) : Prop where
  shown : record.get? "age" = some (.int age.toNat)
  least : 16 ≤ age
  greatest : age ≤ 66
  experience : record.get? "work_experience" = some (.int (max ((age.toNat : ℤ) - 22) 0))
  children : ∃ count : UInt32, record.get? "child_count" = some (.int count.toNat) ∧ count ≤ 5 ∧
    (age < 18 → count = 0)

theorem fieldNames_eq : Builtin.personal.fieldNames =
    "age" :: "child_count" :: "work_experience" :: Builtin.personal.fieldNames.drop 3 := rfl

/-- The fields behind the first three come down to calls that do not touch the stored age. -/
theorem touchesAge_of_lookup : ∀ field ∈ Builtin.personal.fieldNames.drop 3,
    (fields.lookup field).all (fun call => !call.touchesAge) = true := by
  decide

theorem keeps_performField {field : String} (h : field ∈ Builtin.personal.fieldNames.drop 3) :
    Gen.Keeps (fun st : Personal σ × Store => st.1.storedAge) (Builtin.personal.performField field) := by
  have ht := touchesAge_of_lookup field h
  have hf : (Builtin.personal.fields.lookup field) = fields.lookup field := rfl
  unfold Builtin.performField
  rw [hf]
  cases hl : fields.lookup field with
  | none =>
    intro st
    rfl
  | some call =>
    rw [hl] at ht
    exact keeps_perform (by simpa using ht)

theorem age_of_ok {lo hi : UInt32} {st st' : Personal σ × Store} {v : Json} (h : perform (.age lo hi) st = .ok v st') :
    ∃ n, lo ≤ n ∧ n ≤ hi ∧ v = .int n.toNat ∧ st'.1.storedAge = .holding n := by
  have hl := ageLaw_age lo hi st.1 st.2
  rw [h] at hl
  simp only [AgeLaw] at hl
  split at hl
  · obtain ⟨n, h1, h2, ha, hn⟩ := hl
    exact ⟨n, h1, h2, Except.ok.inj ha, hn⟩
  · obtain ⟨⟨fault, ha⟩, _⟩ := hl
    cases ha

omit [WordSource σ] in
theorem Found.of_holding {before after : Personal σ} {age found : UInt32} (h : Found before after found)
    (ha : before.storedAge = .holding age) : found = age ∧ after.storedAge = .holding found := by
  obtain ⟨hs, hf | ⟨hu, _⟩⟩ := h
  · exact ⟨Slot.holding.inj (hf.symm.trans ha), hs⟩
  · cases hu.symm.trans ha

theorem childCount_of_ok {limit age : UInt32} {st st' : Personal σ × Store} {v : Json}
    (h : perform (.childCount limit) st = .ok v st') (ha : st.1.storedAge = .holding age) :
    st'.1.storedAge = .holding age ∧ ∃ n : UInt32, v = .int n.toNat ∧ n ≤ limit ∧ (age < 18 → n = 0) := by
  obtain ⟨found, hf, hl⟩ := ageLaw_childCount limit st.1 st.2
  obtain ⟨rfl, hs⟩ := hf.of_holding ha
  rw [h] at hs hl
  refine ⟨hs, ?_⟩
  split at hl
  · obtain ⟨hv, _⟩ := hl
    exact ⟨0, Except.ok.inj hv, UInt32.le_iff_toNat_le.mpr (Nat.zero_le _), fun _ => rfl⟩
  · next hge =>
    obtain ⟨n, hn, hv⟩ := hl
    exact ⟨n, Except.ok.inj hv, hn, fun hlt => absurd hlt hge⟩

theorem workExperience_of_ok {start age : UInt32} {st st' : Personal σ × Store} {v : Json}
    (h : perform (.workExperience start) st = .ok v st') (ha : st.1.storedAge = .holding age) :
    st'.1.storedAge = .holding age ∧ v = .int (max ((age.toNat : ℤ) - start.toNat) 0) := by
  obtain ⟨found, hf, hv, _⟩ := ageLaw_workExperience start st.1 st.2
  obtain ⟨rfl, hs⟩ := hf.of_holding ha
  rw [h] at hs hv
  exact ⟨hs, Except.ok.inj hv⟩

/-- A record has one age, which the number of children and the years of work in it go by. -/
theorem ageRecord_of_record {st st' : Personal σ × Store} {record : Json}
    (h : Builtin.personal.record st = .ok record st') :
    ∃ age, AgeRecord age record ∧ st'.1.storedAge = .holding age := by
  have hr := congrFun (Builtin.record_eq (σ := σ) .personal) st
  rw [hr] at h
  obtain ⟨values, hv, rfl⟩ := Gen.exists_of_map_ok h
  have hlen := Gen.length_of_inTurn hv
  obtain ⟨entries, hobj, _, _, hget⟩ := isRecord_ofFields Builtin.personal.nodup_fieldNames hlen
  rw [fieldNames_eq] at hv
  obtain ⟨v₀, values₁, st₁, h₀, hv₁, rfl⟩ := Gen.exists_of_inTurn_cons hv
  obtain ⟨v₁, values₂, st₂, h₁, hv₂, rfl⟩ := Gen.exists_of_inTurn_cons hv₁
  obtain ⟨v₂, values₃, st₃, h₂, hv₃, rfl⟩ := Gen.exists_of_inTurn_cons hv₂
  have hage : perform (.age leastAge greatestAge) st = .ok v₀ st₁ := h₀
  have hchildren : perform (.childCount 5) st₁ = .ok v₁ st₂ := h₁
  have hyears : perform (.workExperience 22) st₂ = .ok v₂ st₃ := h₂
  obtain ⟨age, hlo, hhi, rfl, ha₁⟩ := age_of_ok hage
  obtain ⟨ha₂, count, rfl, hcount, hminor⟩ := childCount_of_ok hchildren ha₁
  obtain ⟨ha₃, rfl⟩ := workExperience_of_ok hyears ha₂
  have hkeep := (Gen.Keeps.inTurn fun field hf => keeps_performField hf).of_ok hv₃
  exact ⟨age, ⟨hget 0 _ rfl, hlo, hhi, hget 2 _ rfl, count, hget 1 _ rfl, hcount, hminor⟩, hkeep.trans ha₃⟩

/-- Every record goes by an age of its own, and the last one is kept. -/
theorem ageRecords_of_times {n : ℕ} {st st' : Personal σ × Store} {records : List Json}
    (h : Random.times n Builtin.personal.record st = .ok records st') :
    records.length = n ∧ ∃ ages, List.Forall₂ AgeRecord ages records ∧
      st'.1.storedAge = (ages.getLast?.map Slot.holding).getD st.1.storedAge := by
  have ht : Random.times n Builtin.personal.record st = Gen.inTurn _ _ st :=
    congrFun (Gen.times_eq_inTurn n (Builtin.personal.record (σ := σ))) st
  rw [ht] at h
  have hlen := Gen.length_of_inTurn h
  rw [List.length_replicate] at hlen
  refine ⟨hlen, ?_⟩
  clear hlen ht
  induction n generalizing st records with
  | zero =>
    cases h
    exact ⟨[], .nil, rfl⟩
  | succ n ih =>
    rw [List.replicate_succ] at h
    obtain ⟨record, records, mid, hr, hrs, rfl⟩ := Gen.exists_of_inTurn_cons h
    obtain ⟨age, hrecord, hage⟩ := ageRecord_of_record hr
    obtain ⟨ages, hages, hlast⟩ := ih hrs
    refine ⟨age :: ages, .cons hrecord hages, ?_⟩
    rw [hlast, hage, List.getLast?_cons, Option.getD_map]
    rfl

end Personal

namespace Facade

variable {σ ι : Type} [SeededSource σ]

/-- The age that the provider of personal data has stored; one that is not built has none. -/
def storedAge (f : Facade σ ι) : Slot UInt32 :=
  match f.slots.get .personal with
  | some p => p.storedAge
  | none => .unset

omit [SeededSource σ] in
theorem storedAge_of_get {f : Facade σ ι} {p : Personal σ} (h : f.slots.get .personal = some p) :
    f.storedAge = p.storedAge := by
  simp only [storedAge, h]

theorem storedAge_of_ensure {st st' : Facade σ ι × Store} {p : Personal σ} (h : ensure .personal st = .ok p st') :
    p.storedAge = st.1.storedAge := by
  obtain ⟨f, store⟩ := st
  cases hg : f.slots.get .personal with
  | some q =>
    rw [ensure_of_get hg] at h
    cases h
    exact (storedAge_of_get hg).symm
  | none =>
    have hu : f.storedAge = .unset := by simp only [storedAge, hg]
    cases hb : Builtin.personal.build f.context store with
    | error e after =>
      rw [ensure_of_unbuildable hg hb] at h
      cases h
    | ok q after =>
      rw [ensure_of_build hg hb] at h
      cases h
      exact (Builtin.storedAge_of_build hb).trans hu.symm

/-- In every document of personal data each record is consistent with its own age, and the age of the last record
is stored behind it. -/
theorem ages_of_json {st st' : Facade σ ι × Store} {n : ℕ} {document : Json}
    (h : json "personal" n st = .ok document st') :
    ∃ records ages, document = .object [("users", .list records)] ∧ records.length = n ∧
      List.Forall₂ Personal.AgeRecord ages records ∧
      st'.1.storedAge = (ages.getLast?.map Slot.holding).getD st.1.storedAge := by
  have hroot : (Builtin.personal, "users") ∈ documentKeys := List.mem_cons_self
  have hj := congrFun (json_of_root (σ := σ) (ι := ι) hroot n) st
  obtain ⟨records, ho, rfl⟩ := Gen.exists_of_map_ok (hj.symm.trans h)
  cases he : ensure (ι := ι) Builtin.personal st with
  | error e mid =>
    rw [onProvider_of_failed he] at ho
    cases ho
  | ok p mid =>
    rw [onProvider_of_ensure he] at ho
    cases hp : Random.times n Builtin.personal.record (p, mid.2) with
    | error e after =>
      rw [hp] at ho
      cases ho
    | ok values after =>
      rw [hp] at ho
      cases ho
      obtain ⟨hlen, ages, hages, hlast⟩ := Personal.ageRecords_of_times hp
      refine ⟨records, ages, rfl, hlen, hages, ?_⟩
      rw [storedAge_of_get (get_place mid.1 Builtin.personal after), hlast, storedAge_of_ensure he]

def agedGerman : Facade Keystream Empty × Store :=
  after (new ⟨"de", some 3, fun _ => default⟩, Assets.store) [.request (.generate "personal" "age")]

theorem ages_of_json_agedGerman : ∃ document st', json "personal" 2 agedGerman = .ok document st' ∧
    ∃ records ages, document = .object [("users", .list records)] ∧ records.length = 2 ∧
      List.Forall₂ Personal.AgeRecord ages records ∧
      st'.1.storedAge = (ages.getLast?.map Slot.holding).getD agedGerman.1.storedAge := by
  have hl : "de" ∈ Assets.locales := by decide +kernel
  have he := Assets.equips_of_mem_locales hl
  have hnew := sound_new (ι := Empty) ⟨"de", some 3, fun _ => (default : Keystream)⟩ (Store.faithful_ofSource Assets.source)
  have hst : Sound _ Assets.source agedGerman := sound_after he _ hnew
  have hkey : documentKey? Builtin.personal.name = some "users" := by decide
  obtain ⟨records, st', ho, _⟩ := (unfailing_of_sound he hst).listed .personal "users" hkey 2
  exact ⟨_, st', ho, ages_of_json ho⟩

end Facade

end SampleData
