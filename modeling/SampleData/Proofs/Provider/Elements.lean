import SampleData.Proofs.Checksum.Identifiers
import SampleData.Proofs.Text.Fields
import SampleData.Provider.Element

/-! # Entries of elements

An entry of a bundle writes an element if it has two separators, and its fields hold a name, a symbol and a number in
decimal. The entries that can be read are these and no others. An element that was read can be written down and is read
as itself again, and so is any element of a proper name and symbol, with white space around its parts as one likes.
-/
namespace SampleData.Element

open Text (Holds Trimmed)

def IsNumeral (cs : List Char) (n : ℕ) : Prop := ∃ sign digits, cs = sign ++ digits ∧ (sign = [] ∨ sign = ['+']) ∧
  digits ≠ [] ∧ Text.AreDigits digits ∧ Nat.ofDigitChars 10 digits 0 = n

structure Fields (first second third : List Char) (e : Element) : Prop where
  name : Holds first e.name.toList
  symbol : Holds second e.symbol.toList
  number : ∃ numeral, Holds third numeral ∧ IsNumeral numeral e.atomicNumber.toNat
  named : e.name ≠ ""
  abbreviated : e.symbol ≠ ""

/-- The entry has exactly two separators, and the fields before, between and behind them are those of the element. -/
def Writes (entry : String) (e : Element) : Prop := entry.toList.count '|' = 2 ∧
  ∃ first second third, entry.toList = first ++ '|' :: second ++ '|' :: third ∧ Fields first second third e

theorem number_eq_ofDigitChars (digits : List Char) : Text.number digits = Nat.ofDigitChars 10 digits 0 := rfl

theorem number?_digits_iff {digits : List Char} {n : UInt32} :
    (if digits ≠ [] ∧ digits.all Text.isDigit ∧ Text.number digits < UInt32.size then
      some (UInt32.ofNat (Text.number digits)) else none) = some n ↔
    digits ≠ [] ∧ Text.AreDigits digits ∧ Nat.ofDigitChars 10 digits 0 = n.toNat := by
  rw [Option.ite_none_right_eq_some, Option.some.injEq, List.all_eq_true, ← number_eq_ofDigitChars]
  constructor
  · rintro ⟨⟨hne, hdigits, hlt⟩, rfl⟩
    exact ⟨hne, hdigits, (UInt32.toNat_ofNat_of_lt' hlt).symm⟩
  · rintro ⟨hne, hdigits, hn⟩
    rw [hn]
    exact ⟨⟨hne, hdigits, n.toNat_lt⟩, UInt32.ofNat_toNat⟩

/-- A run of digits is read as its value if the value is a 32-bit word. -/
theorem number?_eq_some_iff {cs : List Char} {n : UInt32} : number? cs = some n ↔ IsNumeral cs n.toNat := by
  have hplus : Text.isDigit '+' = false := rfl
  unfold number?
  dsimp only
  split
  · next ds =>
    rw [number?_digits_iff]
    constructor
    · intro h
      exact ⟨['+'], ds, rfl, .inr rfl, h⟩
    · rintro ⟨sign, digits, hcs, rfl | rfl, hne, hdigits, hn⟩
      · obtain rfl : '+' :: ds = digits := hcs
        cases hplus.symm.trans (hdigits '+' List.mem_cons_self)
      · obtain rfl : ds = digits := (List.cons.inj hcs).2
        exact ⟨hne, hdigits, hn⟩
  · next hnoPlus =>
    rw [number?_digits_iff]
    constructor
    · intro h
      exact ⟨[], cs, rfl, .inl rfl, h⟩
    · rintro ⟨sign, digits, hcs, rfl | rfl, hne, hdigits, hn⟩
      · obtain rfl : cs = digits := hcs
        exact ⟨hne, hdigits, hn⟩
      · exact absurd hcs (hnoPlus digits)

theorem ofEntry?_eq_some_of_pieces {entry : String} {first second third : List Char} {e : Element}
    (hp : Text.pieces '|' entry.toList = [first, second, third]) :
    ofEntry? entry = some e ↔ Fields first second third e := by
  have hempty : ∀ {text : String}, text ≠ "" ↔ text.toList ≠ [] := fun {text} => by simp
  unfold ofEntry?
  rw [hp, List.map_cons, List.map_cons, List.map_cons, List.map_nil]
  dsimp only
  rw [Option.ite_none_left_eq_some, Option.map_eq_some_iff, not_or]
  constructor
  · rintro ⟨⟨hname, hsymbol⟩, n, hn, rfl⟩
    exact ⟨Text.trim_eq_iff.mp (String.toList_ofList).symm, Text.trim_eq_iff.mp (String.toList_ofList).symm,
      ⟨_, Text.trim_eq_iff.mp rfl, number?_eq_some_iff.mp hn⟩, by simpa using hname, by simpa using hsymbol⟩
  · rintro ⟨hname, hsymbol, ⟨numeral, hthird, hn⟩, hnamed, habbreviated⟩
    rw [Text.trim_eq_iff.mpr hname, Text.trim_eq_iff.mpr hsymbol, Text.trim_eq_iff.mpr hthird]
    refine ⟨⟨hempty.mp hnamed, hempty.mp habbreviated⟩, e.atomicNumber, number?_eq_some_iff.mpr hn, ?_⟩
    rw [String.ofList_toList, String.ofList_toList]

/-- Three fields without a separator are the pieces of what they are joined to. -/
theorem pieces_fields {first second third : List Char} :
    Text.pieces '|' (first ++ '|' :: second ++ '|' :: third) = [first, second, third] ↔
      '|' ∉ first ∧ '|' ∉ second ∧ '|' ∉ third := by
  rw [Text.pieces_eq_iff]
  simp [List.intercalate_cons_cons]

theorem pieces_of_count {first second third : List Char} (h : (first ++ '|' :: second ++ '|' :: third).count '|' = 2) :
    Text.pieces '|' (first ++ '|' :: second ++ '|' :: third) = [first, second, third] := by
  simp only [List.count_append, List.count_cons_self] at h
  rw [pieces_fields, ← List.count_eq_zero, ← List.count_eq_zero, ← List.count_eq_zero]
  omega

/-- An entry is read as an element exactly if it writes one. -/
theorem ofEntry?_eq_some_iff {entry : String} {e : Element} : ofEntry? entry = some e ↔ Writes entry e := by
  constructor
  · intro h
    have hlength := Text.length_pieces '|' entry.toList
    obtain ⟨first, second, third, hp⟩ : ∃ first second third, Text.pieces '|' entry.toList = [first, second, third] := by
      unfold ofEntry? at h
      split at h
      · next heq =>
        obtain ⟨a, as, hp, -, has⟩ := List.map_eq_cons_iff.mp heq
        obtain ⟨b, bs, rfl, -, hbs⟩ := List.map_eq_cons_iff.mp has
        obtain ⟨c, cs, rfl, -, hcs⟩ := List.map_eq_cons_iff.mp hbs
        obtain rfl := List.map_eq_nil_iff.mp hcs
        exact ⟨a, b, c, hp⟩
      · cases h
    refine ⟨?_, first, second, third, ?_, (ofEntry?_eq_some_of_pieces hp).mp h⟩
    · rw [hp] at hlength
      exact (Nat.succ.inj hlength).symm
    · rw [(Text.pieces_eq_iff.mp hp).2.1]
      simp [List.intercalate_cons_cons]
  · rintro ⟨hcount, first, second, third, hentry, hfields⟩
    rw [hentry] at hcount
    exact (ofEntry?_eq_some_of_pieces (hentry ▸ pieces_of_count hcount)).mpr hfields

structure IsLabel (text : String) : Prop where
  nonempty : text ≠ ""
  trimmed : Trimmed text.toList
  whole : '|' ∉ text.toList

theorem notMem_of_blank {cs : List Char} (h : Text.AreBlank cs) : '|' ∉ cs := by
  intro hc
  cases h '|' hc

theorem mem_iff_of_holds {field text : List Char} (h : Holds field text) : '|' ∈ field ↔ '|' ∈ text := by
  obtain ⟨_, before, behind, hb, ha, rfl⟩ := h
  simp [notMem_of_blank hb, notMem_of_blank ha]

theorem Writes.labels {entry : String} {e : Element} (h : Writes entry e) : IsLabel e.name ∧ IsLabel e.symbol := by
  obtain ⟨hcount, first, second, third, hentry, hfields⟩ := h
  rw [hentry] at hcount
  obtain ⟨hfirst, hsecond, _⟩ := pieces_fields.mp (pieces_of_count hcount)
  rw [mem_iff_of_holds hfields.name] at hfirst
  rw [mem_iff_of_holds hfields.symbol] at hsecond
  exact ⟨⟨hfields.named, hfields.name.trimmed, hfirst⟩, ⟨hfields.abbreviated, hfields.symbol.trimmed, hsecond⟩⟩

theorem isNumeral_toString (n : ℕ) : IsNumeral (toString n).toList n := by
  refine ⟨[], (toString n).toList, rfl, .inl rfl, ?_, Text.areDigits_toString n, Text.number_toString n⟩
  rw [Text.toList_toString]
  exact Nat.toDigits_ne_nil

theorem trimmed_toString (n : ℕ) : Trimmed (toString n).toList :=
  .of_forall fun c hc => Text.not_isWhiteSpace_of_isDigit (Text.areDigits_toString n c hc)

/-- An element of proper labels is read from its parts, whatever white space they stand in. -/
theorem ofEntry?_of_holds {e : Element} (hname : IsLabel e.name) (hsymbol : IsLabel e.symbol)
    {first second third : List Char} (hfirst : Holds first e.name.toList) (hsecond : Holds second e.symbol.toList)
    (hthird : Holds third (toString e.atomicNumber.toNat).toList) :
    ofEntry? (String.ofList (first ++ '|' :: second ++ '|' :: third)) = some e := by
  have hdigits : '|' ∉ (toString e.atomicNumber.toNat).toList := by
    intro hm
    cases Text.areDigits_toString _ '|' hm
  have hp := pieces_fields.mpr ⟨(mem_iff_of_holds hfirst).not.mpr hname.whole,
    (mem_iff_of_holds hsecond).not.mpr hsymbol.whole, (mem_iff_of_holds hthird).not.mpr hdigits⟩
  rw [ofEntry?_eq_some_of_pieces (by rw [String.toList_ofList]; exact hp)]
  exact ⟨hfirst, hsecond, ⟨_, hthird, isNumeral_toString _⟩, hname.nonempty, hsymbol.nonempty⟩

theorem entry_eq (e : Element) : e.entry =
    String.ofList (e.name.toList ++ '|' :: e.symbol.toList ++ '|' :: (toString e.atomicNumber.toNat).toList) := by
  have hbar : "|".toList = ['|'] := rfl
  apply String.toList_inj.mp
  simp [entry, hbar]

/-- What is written of an element is read back as the element. -/
theorem ofEntry?_entry {e : Element} (hname : IsLabel e.name) (hsymbol : IsLabel e.symbol) :
    ofEntry? e.entry = some e := by
  rw [entry_eq]
  exact ofEntry?_of_holds hname hsymbol (.refl_of_trimmed hname.trimmed) (.refl_of_trimmed hsymbol.trimmed)
    (.refl_of_trimmed (trimmed_toString _))

/-- Exactly the entries of the grammar can be read; what was read is read again from its own entry, and so is every
element of proper labels, whatever white space its parts stand in. -/
theorem entries_read :
    (∀ entry e, ofEntry? entry = some e ↔ Writes entry e) ∧
    (∀ entry e, ofEntry? entry = some e → ofEntry? e.entry = some e) ∧
    ∀ e : Element, IsLabel e.name → IsLabel e.symbol → ofEntry? e.entry = some e ∧
      ∀ first second third, Holds first e.name.toList → Holds second e.symbol.toList →
        Holds third (toString e.atomicNumber.toNat).toList →
        ofEntry? (String.ofList (first ++ '|' :: second ++ '|' :: third)) = some e := by
  refine ⟨fun entry e => ofEntry?_eq_some_iff, ?_, ?_⟩
  · intro entry e h
    obtain ⟨hname, hsymbol⟩ := (ofEntry?_eq_some_iff.mp h).labels
    exact ofEntry?_entry hname hsymbol
  · intro e hname hsymbol
    exact ⟨ofEntry?_entry hname hsymbol, fun first second third => ofEntry?_of_holds hname hsymbol⟩

/-- A sign, leading zeros and white space of several kinds are read over, and white space within a name is kept. -/
theorem entries_read_heavyWater :
    ofEntry? "\t Heavy  water | D₂O\u00a0|+0010\u3000" = some ⟨"Heavy  water", "D₂O", 10⟩ ∧
    ofEntry? (⟨"Heavy  water", "D₂O", 10⟩ : Element).entry = some ⟨"Heavy  water", "D₂O", 10⟩ ∧
    IsLabel "Heavy  water" ∧ IsLabel "D₂O" ∧
    ofEntry? (String.ofList ("Heavy  water\n".toList ++ '|' :: "D₂O".toList ++ '|' :: " 10".toList)) =
      some ⟨"Heavy  water", "D₂O", 10⟩ := by
  obtain ⟨hiff, hagain, hlabels⟩ := entries_read
  have hread : ofEntry? "\t Heavy  water | D₂O\u00a0|+0010\u3000" = some ⟨"Heavy  water", "D₂O", 10⟩ := by
    decide +kernel
  obtain ⟨hname, hsymbol⟩ := ((hiff _ _).mp hread).labels
  refine ⟨hread, hagain _ _ hread, hname, hsymbol, (hlabels _ hname hsymbol).2 _ _ _ ?_ ?_ ?_⟩ <;>
  · rw [← Text.trim_eq_iff]
    decide +kernel

end SampleData.Element
