import Mathlib.Data.List.Basic
import SampleData.Proofs.Steps
import SampleData.Provider.Builtin
import SampleData.Random.Keystream

/-! # Streams apart

Every step of the hash is undone by the byte it was made with, since the prime has an inverse among the words. So the
word that a stream starts from tells the seeds of one key apart, and a byte in which two keys differ is never made
good by the bytes behind it.
-/
namespace SampleData.Random

def fnvInverse : UInt64 := 0xce965057aff6957b

theorem fnvPrime_mul_fnvInverse : fnvPrime * fnvInverse = 1 := by decide

theorem fnvInverse_mul_fnvPrime : fnvInverse * fnvPrime = 1 := by decide

def unhashStep (h : UInt64) (b : UInt8) : UInt64 := (h * fnvInverse) ^^^ b.toUInt64

theorem unhashStep_hashStep (h : UInt64) (b : UInt8) : unhashStep (hashStep h b) b = h := by
  unfold unhashStep hashStep
  rw [UInt64.mul_assoc, fnvPrime_mul_fnvInverse, UInt64.mul_one, UInt64.xor_assoc, UInt64.xor_self, UInt64.xor_zero]

theorem hashStep_unhashStep (h : UInt64) (b : UInt8) : hashStep (unhashStep h b) b = h := by
  unfold unhashStep hashStep
  rw [UInt64.xor_assoc, UInt64.xor_self, UInt64.xor_zero, UInt64.mul_assoc, fnvInverse_mul_fnvPrime, UInt64.mul_one]

/-- Hashing with a byte loses nothing. -/
theorem bijective_hashStep (b : UInt8) : Function.Bijective fun h => hashStep h b :=
  Function.bijective_iff_has_inverse.mpr
    ⟨fun h => unhashStep h b, fun h => unhashStep_hashStep h b, fun h => hashStep_unhashStep h b⟩

/-- The byte can be told from the word before it and the word behind it. -/
theorem hashStep_injective (h : UInt64) : Function.Injective (hashStep h) := by
  intro b b' he
  have hx : h ^^^ b.toUInt64 = h ^^^ b'.toUInt64 := by
    have hm := congrArg (· * fnvInverse) he
    simpa only [hashStep, UInt64.mul_assoc, fnvPrime_mul_fnvInverse, UInt64.mul_one] using hm
  exact UInt8.toUInt64_inj.mp ((UInt64.xor_right_inj h).mp hx)

theorem bijective_foldl_hashStep (bytes : List UInt8) : Function.Bijective fun h => bytes.foldl hashStep h := by
  induction bytes with
  | nil => exact Function.bijective_id
  | cons b bytes ih => exact ih.comp (bijective_hashStep b)

/-- No two seeds have one state under a key. -/
theorem bijective_hashSeed (key : String) : Function.Bijective fun seed => hashSeed seed key := by
  have hmixed : Function.Bijective fun seed => seed ^^^ offsetBasis := by
    refine Function.bijective_iff_has_inverse.mpr ⟨fun h => h ^^^ offsetBasis, fun seed => ?_, fun h => ?_⟩ <;>
    · dsimp only
      rw [UInt64.xor_assoc, UInt64.xor_self, UInt64.xor_zero]
  exact (bijective_foldl_hashStep key.toUTF8.data.toList).comp hmixed

/-- The lists have the same length, and there is exactly one place in which they differ. -/
def DifferOnce {α : Type} (xs ys : List α) : Prop := xs.length = ys.length ∧ ∃! i : ℕ, xs[i]? ≠ ys[i]?

theorem DifferOnce.exists_split {α : Type} {xs ys : List α} (h : DifferOnce xs ys) :
    ∃ before x y after, x ≠ y ∧ xs = before ++ x :: after ∧ ys = before ++ y :: after := by
  obtain ⟨hlength, i, hi, hothers⟩ := h
  have hx : i < xs.length := by
    by_contra hn
    exact hi (by rw [List.getElem?_eq_none (by omega), List.getElem?_eq_none (by omega)])
  have hy : i < ys.length := by omega
  have halike : ∀ j, j ≠ i → xs[j]? = ys[j]? := fun j hj => not_not.mp fun hn => hj (hothers j hn)
  have htake : xs.take i = ys.take i := by
    refine List.ext_getElem? fun j => ?_
    rw [List.getElem?_take, List.getElem?_take]
    split_ifs with hj
    · exact halike j (by omega)
    · rfl
  have hdrop : xs.drop (i + 1) = ys.drop (i + 1) := by
    refine List.ext_getElem? fun j => ?_
    rw [List.getElem?_drop, List.getElem?_drop]
    exact halike _ (by omega)
  refine ⟨xs.take i, xs[i], ys[i], xs.drop (i + 1), ?_, ?_, ?_⟩
  · intro he
    exact hi (by rw [List.getElem?_eq_getElem hx, List.getElem?_eq_getElem hy, he])
  · rw [List.getElem_cons_drop, List.take_append_drop]
  · rw [htake, hdrop, List.getElem_cons_drop, List.take_append_drop]

/-- Two keys that differ in one byte have different streams under every seed. -/
theorem hashSeed_ne_of_differOnce {key key' : String} (h : DifferOnce key.toUTF8.data.toList key'.toUTF8.data.toList)
    (seed : UInt64) : hashSeed seed key ≠ hashSeed seed key' := by
  obtain ⟨before, b, b', after, hne, hkey, hkey'⟩ := h.exists_split
  unfold hashSeed hashBytes
  rw [hkey, hkey', List.foldl_append, List.foldl_append, List.foldl_cons, List.foldl_cons]
  intro he
  exact hne (hashStep_injective _ ((bijective_foldl_hashStep after).injective he))

end SampleData.Random

namespace SampleData.Builtin

variable {σ : Type}

def words : (p : Builtin) → p.State σ → σ
  | .personal, x => Personal.words x
  | .address, x | .business, x | .datetime, x | .text, x | .food, x | .science, x | .internet, x => Stocked.words x
  | .code, x => Coder.words x
  | .clothingSizes, x | .development, x | .file, x | .hardware, x | .network, x | .numbers, x | .transport, x => x

variable [SeededSource σ]

/-- A provider that was built draws from the stream of its name. -/
theorem words_of_build {p : Builtin} {c : Context σ} {store after : Store} {x : p.State σ}
    (h : p.build c store = .ok x after) : p.words x = c.stream p.name := by
  cases p with
  | address | business | datetime | food | internet | personal | science | text =>
    obtain ⟨bundle, mid, _, ho⟩ := Gen.exists_of_bind_ok h
    cases ho
    rfl
  | _ =>
    cases h
    rfl

theorem stream_of_seed {c : Context σ} {seed : UInt64} (h : c.seed = some seed) (key : String) :
    c.stream key = SeededSource.ofSeed (Random.hashSeed seed key) := by
  unfold Context.stream
  rw [h]
  rfl

/-- The word that a stream starts from is another one for every seed, and is never the same for two keys that differ
in one byte. A provider starts from the word of its own name, so no two seeds start it alike. -/
theorem streams_apart :
    (∀ key, Function.Bijective fun seed => Random.hashSeed seed key) ∧
    (∀ (p : Builtin) (c c' : Context σ) (seed seed' : UInt64), c.seed = some seed → c'.seed = some seed' → seed ≠ seed' →
      ∀ (store store' after after' : Store) (x x' : p.State σ), p.build c store = .ok x after →
        p.build c' store' = .ok x' after' → p.words x = SeededSource.ofSeed (Random.hashSeed seed p.name) ∧
          p.words x' = SeededSource.ofSeed (Random.hashSeed seed' p.name) ∧
          Random.hashSeed seed p.name ≠ Random.hashSeed seed' p.name) ∧
    ∀ (seed : UInt64) (key key' : String), Random.DifferOnce key.toUTF8.data.toList key'.toUTF8.data.toList →
      Random.hashSeed seed key ≠ Random.hashSeed seed key' := by
  refine ⟨Random.bijective_hashSeed, ?_, fun seed key key' h => Random.hashSeed_ne_of_differOnce h seed⟩
  intro p c c' seed seed' hc hc' hne store store' after after' x x' hx hx'
  refine ⟨?_, ?_, fun he => hne ((Random.bijective_hashSeed p.name).injective he)⟩
  · rw [words_of_build hx, stream_of_seed hc]
  · rw [words_of_build hx', stream_of_seed hc']

def seededContext (seed : UInt64) : Context Keystream := ⟨Locale.standard, some seed, fun _ => default⟩

theorem streams_apart_numbers : Random.hashSeed 1 "numbers" ≠ Random.hashSeed 2 "numbers" ∧
    Random.DifferOnce "ram".toUTF8.data.toList "rom".toUTF8.data.toList ∧
    Random.hashSeed 7 "ram" ≠ Random.hashSeed 7 "rom" := by
  have hd : Random.DifferOnce "ram".toUTF8.data.toList "rom".toUTF8.data.toList := by
    refine ⟨rfl, 1, by decide, fun i hi => ?_⟩
    match i with
    | 0 => exact absurd rfl hi
    | 1 => rfl
    | 2 => exact absurd rfl hi
    | i + 3 => exact absurd rfl hi
  obtain ⟨_, hproviders, hkeys⟩ := @streams_apart Keystream _
  obtain ⟨_, _, hne⟩ := hproviders .numbers (seededContext 1) (seededContext 2) 1 2 rfl rfl (by decide)
    (.ofSource (.ofTable [])) (.ofSource (.ofTable [])) _ _ _ _ rfl rfl
  exact ⟨hne, hd, hkeys 7 "ram" "rom" hd⟩

end SampleData.Builtin
