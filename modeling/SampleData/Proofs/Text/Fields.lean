import Mathlib.Data.List.TakeWhile
import SampleData.Text.Digits
import SampleData.Text.Pieces
import SampleData.Text.WhiteSpace

/-! # Fields of a line

A text is cut at a separator into the pieces that it is joined of, and there is only one way to do so. A field is a
piece with white space around what it holds; what it holds is what is left when it is trimmed.
-/
namespace SampleData.Text

theorem pieces_eq_splitOn (separator : Char) (cs : List Char) : pieces separator cs = cs.splitOn separator := by
  induction cs with
  | nil => simp [pieces]
  | cons c cs ih =>
    rw [pieces, List.splitOn_cons_eq_if_modifyHead, ih]
    simp only [beq_iff_eq]
    split
    · rfl
    · cases h : cs.splitOn separator with
      | nil => exact absurd h (List.splitOn_ne_nil separator cs)
      | cons p ps => rfl

theorem notMem_of_mem_pieces {separator : Char} {cs p : List Char} (h : p ∈ pieces separator cs) : separator ∉ p := by
  induction cs generalizing p with
  | nil =>
    obtain rfl := List.mem_singleton.mp h
    exact List.not_mem_nil
  | cons c cs ih =>
    by_cases hc : c = separator
    · rw [pieces, if_pos hc] at h
      rcases List.mem_cons.mp h with rfl | h
      · exact List.not_mem_nil
      · exact ih h
    · rw [pieces, if_neg hc] at h
      cases hp : pieces separator cs with
      | nil => exact absurd hp (pieces_ne_nil separator cs)
      | cons q qs =>
        rw [hp] at h ih
        rcases List.mem_cons.mp h with rfl | h
        · exact List.not_mem_cons_of_ne_of_not_mem (Ne.symm hc) (ih List.mem_cons_self)
        · exact ih (List.mem_cons_of_mem q h)

/-- The pieces of a text are the only texts without the separator that it is joined of. -/
theorem pieces_eq_iff {separator : Char} {cs : List Char} {ps : List (List Char)} :
    pieces separator cs = ps ↔ ps ≠ [] ∧ cs = [separator].intercalate ps ∧ ∀ p ∈ ps, separator ∉ p := by
  constructor
  · rintro rfl
    refine ⟨pieces_ne_nil separator cs, ?_, fun p hp => notMem_of_mem_pieces hp⟩
    rw [pieces_eq_splitOn, List.intercalate_splitOn]
  · rintro ⟨hne, rfl, hp⟩
    rw [pieces_eq_splitOn, List.splitOn_intercalate separator hp hne]

/-- There is one piece more than there are separators. -/
theorem length_pieces (separator : Char) (cs : List Char) : (pieces separator cs).length = cs.count separator + 1 := by
  induction cs with
  | nil => rfl
  | cons c cs ih =>
    rw [pieces]
    by_cases hc : c = separator
    · rw [if_pos hc, List.length_cons, ih, hc, List.count_cons_self]
    · rw [if_neg hc, List.count_cons_of_ne hc]
      cases hp : pieces separator cs with
      | nil => exact absurd hp (pieces_ne_nil separator cs)
      | cons q qs =>
        rw [hp] at ih
        exact ih

/-- Cuts at every `first` with a `second` right behind it. -/
def piecesAtPair (first second : Char) : List Char → List (List Char)
  | [] => [[]]
  | [c] => [[c]]
  | c :: d :: cs =>
    if c = first ∧ d = second then [] :: piecesAtPair first second cs
    else (piecesAtPair first second (d :: cs)).modifyHead (List.cons c)

variable {first second : Char}

theorem piecesAtPair_cons_of_ne {c : Char} (h : c ≠ first) (cs : List Char) :
    piecesAtPair first second (c :: cs) = (piecesAtPair first second cs).modifyHead (List.cons c) := by
  cases cs with
  | nil => rfl
  | cons d cs => rw [piecesAtPair, if_neg fun hc => h hc.1]

theorem piecesAtPair_of_notMem {p : List Char} (h : first ∉ p) : piecesAtPair first second p = [p] := by
  induction p with
  | nil => rfl
  | cons c p ih =>
    have hc : c ≠ first := (List.ne_of_not_mem_cons h).symm
    rw [piecesAtPair_cons_of_ne hc, ih (List.not_mem_of_not_mem_cons h)]
    rfl

theorem piecesAtPair_append {p : List Char} (h : first ∉ p) (cs : List Char) :
    piecesAtPair first second (p ++ first :: second :: cs) = p :: piecesAtPair first second cs := by
  induction p with
  | nil =>
    rw [List.nil_append, piecesAtPair, if_pos ⟨rfl, rfl⟩]
  | cons c p ih =>
    have hc : c ≠ first := (List.ne_of_not_mem_cons h).symm
    rw [List.cons_append, piecesAtPair_cons_of_ne hc, ih (List.not_mem_of_not_mem_cons h)]
    rfl

theorem notMem_intercalate {c : Char} {separator : List Char} {ps : List (List Char)} (hs : c ∉ separator)
    (h : ∀ p ∈ ps, c ∉ p) : c ∉ separator.intercalate ps := by
  induction ps with
  | nil => exact List.not_mem_nil
  | cons p ps ih =>
    obtain ⟨hp, hps⟩ := List.forall_mem_cons.mp h
    cases ps with
    | nil => rwa [List.intercalate_singleton]
    | cons q qs =>
      rw [List.intercalate_cons_cons, List.mem_append, List.mem_append]
      rintro ((hc | hc) | hc)
      · exact hp hc
      · exact hs hc
      · exact ih hps hc

/-- Texts without the first of the two characters are the pieces of what they are joined to. -/
theorem piecesAtPair_intercalate {ps : List (List Char)} (hne : ps ≠ []) (h : ∀ p ∈ ps, first ∉ p) :
    piecesAtPair first second ([first, second].intercalate ps) = ps := by
  induction ps with
  | nil => exact absurd rfl hne
  | cons p ps ih =>
    obtain ⟨hp, hps⟩ := List.forall_mem_cons.mp h
    cases ps with
    | nil =>
      rw [List.intercalate_singleton]
      exact piecesAtPair_of_notMem hp
    | cons q qs =>
      have hrest := ih (List.cons_ne_nil q qs) hps
      rw [List.intercalate_cons_cons, List.append_assoc]
      exact (piecesAtPair_append hp _).trans (congrArg (List.cons p) hrest)

def AreBlank (cs : List Char) : Prop := ∀ c ∈ cs, isWhiteSpace c = true

structure Trimmed (cs : List Char) : Prop where
  first : ∀ c ∈ cs.head?, isWhiteSpace c = false
  last : ∀ c ∈ cs.getLast?, isWhiteSpace c = false

structure Holds (field text : List Char) : Prop where
  trimmed : Trimmed text
  padded : ∃ before behind, AreBlank before ∧ AreBlank behind ∧ field = before ++ text ++ behind

theorem not_isWhiteSpace_of_isDigit {c : Char} (h : isDigit c = true) : isWhiteSpace c = false := by
  have h0 : '0'.toNat = 48 := rfl
  have h9 : '9'.toNat = 57 := rfl
  simp only [isDigit, Bool.and_eq_true, decide_eq_true_eq] at h
  simp only [isWhiteSpace, Bool.or_eq_false_iff, Bool.and_eq_false_iff, decide_eq_false_iff_not, beq_eq_false_iff_ne]
  omega

theorem Trimmed.of_forall {cs : List Char} (h : ∀ c ∈ cs, isWhiteSpace c = false) : Trimmed cs where
  first c hc := h c (List.mem_of_mem_head? hc)
  last c hc := h c (List.mem_of_mem_getLast? hc)

theorem Trimmed.reverse {cs : List Char} (h : Trimmed cs) : Trimmed cs.reverse where
  first c hc := h.last c (by rwa [List.head?_reverse] at hc)
  last c hc := h.first c (by rwa [List.getLast?_reverse] at hc)

theorem dropWhile_of_blank {before cs : List Char} (hb : AreBlank before)
    (hc : ∀ c ∈ cs.head?, isWhiteSpace c = false) : (before ++ cs).dropWhile isWhiteSpace = cs := by
  rw [List.dropWhile_append_of_pos hb]
  cases cs with
  | nil => rfl
  | cons c cs => exact List.dropWhile_cons_of_neg (by simp [hc c rfl])

theorem exists_blank_append (cs : List Char) : ∃ before, AreBlank before ∧ cs = before ++ cs.dropWhile isWhiteSpace ∧
    ∀ c ∈ (cs.dropWhile isWhiteSpace).head?, isWhiteSpace c = false := by
  refine ⟨cs.takeWhile isWhiteSpace, fun c hc => List.mem_takeWhile_imp hc, List.takeWhile_append_dropWhile.symm, ?_⟩
  intro c hc
  have h := List.head?_dropWhile_not isWhiteSpace cs
  rw [Option.mem_def.mp hc] at h
  exact h

/-- Trimming finds the text that a field holds. -/
theorem trim_eq_iff {field text : List Char} : trim field = text ↔ Holds field text := by
  constructor
  · rintro rfl
    obtain ⟨before, hb, hbefore, hfirst⟩ := exists_blank_append field
    obtain ⟨behind, ha, hbehind, hlast⟩ := exists_blank_append (field.dropWhile isWhiteSpace).reverse
    have hrest : field.dropWhile isWhiteSpace = trim field ++ behind.reverse := by
      rw [← List.reverse_reverse (field.dropWhile isWhiteSpace), hbehind, List.reverse_append]
      rfl
    refine ⟨⟨?_, ?_⟩, before, behind.reverse, hb, fun c hc => ha c (List.mem_reverse.mp hc), ?_⟩
    · intro c hc
      refine hfirst c ?_
      rw [hrest, List.head?_append, Option.mem_def.mp hc]
      rfl
    · intro c hc
      refine hlast c ?_
      rwa [trim, List.getLast?_reverse] at hc
    · rw [List.append_assoc, ← hrest]
      exact hbefore
  · rintro ⟨htrimmed, before, behind, hb, ha, rfl⟩
    have hbehind : AreBlank behind.reverse := fun c hc => ha c (List.mem_reverse.mp hc)
    cases text with
    | nil =>
      have hall : AreBlank (before ++ behind) := fun c hc => (List.mem_append.mp hc).elim (hb c) (ha c)
      rw [trim, List.append_nil, List.dropWhile_eq_nil_iff.mpr hall]
      rfl
    | cons c text =>
      have hfront : (before ++ (c :: text ++ behind)).dropWhile isWhiteSpace = c :: text ++ behind :=
        dropWhile_of_blank hb htrimmed.first
      rw [trim, List.append_assoc, hfront, List.reverse_append, dropWhile_of_blank hbehind htrimmed.reverse.first,
        List.reverse_reverse]

theorem Holds.refl_of_trimmed {cs : List Char} (h : Trimmed cs) : Holds cs cs :=
  ⟨h, [], [], nofun, nofun, by simp⟩

end SampleData.Text
