import SampleData.Json.Printer
import SampleData.Json.Reader
import SampleData.Proofs.Json.Numerals

/-! # The grammar of JSON texts

A text stands for a value by rules of its own: brackets, commas and colons, literals with escapes, and numerals. Between
the tokens there can be gaps. Both printers write texts of the grammar, the compact one without any gap.
-/
namespace SampleData.Json

inductive IsEscape : Char → List Char → Prop
  | plain {c : Char} (hq : c ≠ '"') (hb : c ≠ '\\') (hc : 0x20 ≤ c.toNat) : IsEscape c [c]
  | short {e c : Char} (h : shortEscape? e = some c) : IsEscape c ['\\', e]
  | unit {a b c d : Char} {n : ℕ} (h : Text.hexUnit? a b c d = some n) (hn : n < 0xd800 ∨ 0xe000 ≤ n) :
      IsEscape (Char.ofNat n) ['\\', 'u', a, b, c, d]

inductive IsBody : List Char → List Char → Prop
  | nil : IsBody [] []
  | cons {c : Char} {s cs ds : List Char} (hc : IsEscape c cs) (hs : IsBody s ds) : IsBody (c :: s) (cs ++ ds)

inductive IsLiteral (s : String) : List Char → Prop
  | quoted {body : List Char} (h : IsBody s.toList body) : IsLiteral s ('"' :: (body ++ ['"']))

section

variable (Gap : List Char → Prop)

/-- One or more parts with commas between them, up to a closing bracket. -/
inductive Separated {α : Type} (Part : α → List Char → Prop) (close : Char) : List α → List Char → Prop
  | last {a : α} {cs g : List Char} (ha : Part a cs) (hg : Gap g) : Separated Part close [a] (cs ++ (g ++ [close]))
  | more {a b : α} {as : List α} {cs ds g h : List Char} (ha : Part a cs) (hg : Gap g) (hh : Gap h)
      (hs : Separated Part close (b :: as) ds) : Separated Part close (a :: b :: as) (cs ++ (g ++ ',' :: (h ++ ds)))

inductive IsField (Part : Json → List Char → Prop) : String × Json → List Char → Prop
  | keyed {key : String} {v : Json} {ks cs g h : List Char} (hk : IsLiteral key ks) (hg : Gap g) (hh : Gap h)
      (hv : Part v cs) : IsField Part (key, v) (ks ++ (g ++ ':' :: (h ++ cs)))

/-- The text stands for the value. -/
inductive Spells : Json → List Char → Prop
  | null : Spells .null ['n', 'u', 'l', 'l']
  | yes : Spells (.bool true) ['t', 'r', 'u', 'e']
  | no : Spells (.bool false) ['f', 'a', 'l', 's', 'e']
  | int (n : ℤ) : Spells (.int n) (toString n).toList
  | real {x : Float} {cs : List Char} (hx : IsDouble x cs) : Spells (.real x) cs
  | str {s : String} {cs : List Char} (hs : IsLiteral s cs) : Spells (.str s) cs
  | noItems {g : List Char} (hg : Gap g) : Spells (.list []) ('[' :: (g ++ [']']))
  | list {v : Json} {vs : List Json} {g cs : List Char} (hg : Gap g) (hs : Separated Gap Spells ']' (v :: vs) cs) :
      Spells (.list (v :: vs)) ('[' :: (g ++ cs))
  | noFields {g : List Char} (hg : Gap g) : Spells (.object []) ('{' :: (g ++ ['}']))
  | object {f : String × Json} {fs : List (String × Json)} {g cs : List Char} (hg : Gap g)
      (hs : Separated Gap (IsField Gap Spells) '}' (f :: fs) cs) : Spells (.object (f :: fs)) ('{' :: (g ++ cs))

end

theorem isEscape_escapeChar (c : Char) : IsEscape c (escapeChar c) := by
  have hdigits : ∀ n < 0x20, Text.hexUnit? '0' '0' (Text.hexDigit (n / 16)) (Text.hexDigit (n % 16)) = some n := by
    decide
  have hshort : ∀ {e d : Char}, shortEscape? e = some d → c = d → IsEscape c ['\\', e] := by
    rintro e d he rfl
    exact .short he
  unfold escapeChar
  split_ifs with h1 h2 h3 h4 h5 h6 h7 h8
  · exact hshort rfl h1
  · exact hshort rfl h2
  · exact hshort rfl h3
  · exact hshort rfl h4
  · exact hshort rfl h5
  · exact hshort rfl h6
  · exact hshort rfl h7
  · have hunit := IsEscape.unit (hdigits c.toNat h8) (.inl (by omega))
    rwa [Char.ofNat_toNat] at hunit
  · exact .plain h1 h2 (not_lt.mp h8)

theorem isBody_flatMap (s : List Char) : IsBody s (s.flatMap escapeChar) := by
  induction s with
  | nil => exact .nil
  | cons c s ih => exact .cons (isEscape_escapeChar c) ih

/-- A literal that was written stands for its text. -/
theorem isLiteral_quote (s : String) : IsLiteral s (quote s).toList := by
  unfold quote
  rw [String.toList_ofList]
  exact .quoted (isBody_flatMap _)

section Printers

variable {Gap : List Char → Prop}

theorem separated_intercalate {α : Type} {Part : α → List Char → Prop} (close : Char) (hnil : Gap []) {g h : List Char}
    (hg : Gap g) (hh : Gap h) {as : List α} {texts : List String} (hparts : List.Forall₂ (fun a t => Part a t.toList) as texts)
    (hne : as ≠ []) :
    Separated Gap Part close as ((("," ++ String.ofList g).intercalate texts).toList ++ (h ++ [close])) := by
  induction hparts with
  | nil => exact absurd rfl hne
  | @cons a t as texts ha hrest ih =>
    cases hrest with
    | nil =>
      rw [String.intercalate_singleton]
      exact .last ha hh
    | @cons b u bs us hb hbs =>
      have htext : (("," ++ String.ofList g).intercalate (t :: u :: us)).toList ++ (h ++ [close]) =
          t.toList ++ ([] ++ ',' :: (g ++ ((("," ++ String.ofList g).intercalate (u :: us)).toList ++ (h ++ [close])))) := by
        simp [String.intercalate_cons_cons]
      rw [htext]
      exact .more ha hnil hg (ih (List.cons_ne_nil b bs))

mutual

/-- The compact text of a value stands for the value, with nothing between the tokens. -/
theorem spells_compact (hnil : Gap []) : ∀ v : Json, Spells Gap v v.compact.toList
  | .null => .null
  | .bool true => .yes
  | .bool false => .no
  | .int n => .int n
  | .real x => .real (Decimal.isDouble_exact x)
  | .str s => .str (isLiteral_quote s)
  | .list [] => .noItems hnil
  | .list (v :: vs) => by
    have hs := separated_intercalate ']' hnil hnil hnil (spells_compactItems hnil (v :: vs)) (List.cons_ne_nil _ _)
    have htext : (compact (.list (v :: vs))).toList =
        '[' :: ([] ++ ((("," ++ String.ofList []).intercalate (compactItems (v :: vs))).toList ++ ([] ++ [']']))) := by
      simp [compact]
    rw [htext]
    exact .list hnil hs
  | .object [] => .noFields hnil
  | .object (f :: fs) => by
    have hs := separated_intercalate '}' hnil hnil hnil (spells_compactFields hnil (f :: fs)) (List.cons_ne_nil _ _)
    have htext : (compact (.object (f :: fs))).toList =
        '{' :: ([] ++ ((("," ++ String.ofList []).intercalate (compactFields (f :: fs))).toList ++ ([] ++ ['}']))) := by
      simp [compact]
    rw [htext]
    exact .object hnil hs

theorem spells_compactItems (hnil : Gap []) :
    ∀ vs : List Json, List.Forall₂ (fun v t => Spells Gap v t.toList) vs (compactItems vs)
  | [] => .nil
  | v :: vs => .cons (spells_compact hnil v) (spells_compactItems hnil vs)

theorem spells_compactFields (hnil : Gap []) : ∀ fs : List (String × Json),
    List.Forall₂ (fun f t => IsField Gap (Spells Gap) f t.toList) fs (compactFields fs)
  | [] => .nil
  | (k, v) :: fs => by
    have hf := IsField.keyed (isLiteral_quote k) hnil hnil (spells_compact hnil v)
    have htext : (quote k ++ ":" ++ compact v).toList = (quote k).toList ++ ([] ++ ':' :: ([] ++ v.compact.toList)) := by
      simp
    rw [← htext] at hf
    exact .cons hf (spells_compactFields hnil fs)

end

end Printers

def Blanks (g : List Char) : Prop := ∀ c ∈ g, isBlank c = true

theorem blanks_nil : Blanks [] := List.forall_mem_nil _

theorem blanks_lineEnd : Blanks "\n".toList := by simp [Blanks, isBlank]

theorem blanks_lineStart (depth : ℕ) : Blanks (lineStart depth).toList := by
  unfold lineStart
  rw [String.toList_ofList]
  refine List.forall_mem_cons.mpr ⟨rfl, fun c hc => ?_⟩
  rw [List.eq_of_mem_replicate hc]
  rfl

mutual

theorem spells_prettyAt (depth : ℕ) : ∀ v : Json, Spells Blanks v (prettyAt depth v).toList
  | .null | .bool _ | .int _ | .real _ | .str _ | .list [] | .object [] => by
    rw [prettyAt]
    · exact spells_compact blanks_nil _
    · simp
    · simp
  | .list (v :: vs) => by
    have hs := separated_intercalate ']' blanks_nil (blanks_lineStart (depth + 1)) (blanks_lineStart depth)
      (spells_prettyItems (depth + 1) (v :: vs)) (List.cons_ne_nil _ _)
    have htext : (prettyAt depth (.list (v :: vs))).toList = '[' :: ((lineStart (depth + 1)).toList ++
        ((("," ++ String.ofList (lineStart (depth + 1)).toList).intercalate (prettyItems (depth + 1) (v :: vs))).toList ++
          ((lineStart depth).toList ++ [']']))) := by
      simp [prettyAt]
    rw [htext]
    exact .list (blanks_lineStart _) hs
  | .object (f :: fs) => by
    have hs := separated_intercalate '}' blanks_nil (blanks_lineStart (depth + 1)) (blanks_lineStart depth)
      (spells_prettyFields (depth + 1) (f :: fs)) (List.cons_ne_nil _ _)
    have htext : (prettyAt depth (.object (f :: fs))).toList = '{' :: ((lineStart (depth + 1)).toList ++
        ((("," ++ String.ofList (lineStart (depth + 1)).toList).intercalate (prettyFields (depth + 1) (f :: fs))).toList ++
          ((lineStart depth).toList ++ ['}']))) := by
      simp [prettyAt]
    rw [htext]
    exact .object (blanks_lineStart _) hs

theorem spells_prettyItems (depth : ℕ) :
    ∀ vs : List Json, List.Forall₂ (fun v t => Spells Blanks v t.toList) vs (prettyItems depth vs)
  | [] => .nil
  | v :: vs => .cons (spells_prettyAt depth v) (spells_prettyItems depth vs)

theorem spells_prettyFields (depth : ℕ) : ∀ fs : List (String × Json),
    List.Forall₂ (fun f t => IsField Blanks (Spells Blanks) f t.toList) fs (prettyFields depth fs)
  | [] => .nil
  | (k, v) :: fs => by
    have hblank : Blanks [' '] := by simp [Blanks, isBlank]
    have hf := IsField.keyed (isLiteral_quote k) blanks_nil hblank (spells_prettyAt depth v)
    have htext : (quote k ++ ": " ++ prettyAt depth v).toList =
        (quote k).toList ++ ([] ++ ':' :: ([' '] ++ (prettyAt depth v).toList)) := by
      simp
    rw [← htext] at hf
    exact .cons hf (spells_prettyFields depth fs)

end

/-- The text of a value on several lines stands for the value, with blanks between the tokens. -/
theorem spells_pretty (v : Json) : Spells Blanks v v.pretty.toList := spells_prettyAt 0 v

end SampleData.Json
