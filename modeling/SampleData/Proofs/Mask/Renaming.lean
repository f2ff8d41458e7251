import SampleData.Proofs.Mask.Language

/-! # Renaming the symbols of a mask

The symbols of a mask are names and no more: a mask expands like the one that says the same with the standard symbols,
and both make the same draws. Only a standard symbol that stands for itself cannot be said with them. A mask is
expanded from left to right and nothing is looked at twice, so two masks in a row expand one after the other, and the
expansion of a mask is expanded no further unless a symbol can itself be drawn.
-/
namespace SampleData.Mask

variable {σ : Type} [WordSource σ] (p : Placeholders)

def standardChar (c : Char) : Char :=
  if c = p.letter then Placeholders.standard.letter
  else if c = p.digit then Placeholders.standard.digit
  else c

/-- The mask with both symbols replaced by the standard ones at once. -/
def standardized (mask : String) : String := String.ofList (mask.toList.map (standardChar p))

def IsStandardSymbol (c : Char) : Prop := c = Placeholders.standard.letter ∨ c = Placeholders.standard.digit

/-- No standard symbol of the mask stands for itself. -/
def Standardizable (mask : String) : Prop := ∀ c ∈ mask.toList, IsStandardSymbol c → c = p.letter ∨ c = p.digit

instance : DecidablePred IsStandardSymbol := fun c =>
  inferInstanceAs (Decidable (c = Placeholders.standard.letter ∨ c = Placeholders.standard.digit))

instance (mask : String) : Decidable (Standardizable p mask) :=
  List.decidableBAll (fun c => IsStandardSymbol c → c = p.letter ∨ c = p.digit) mask.toList

theorem fill_of_ne {c : Char} (hl : c ≠ p.letter) (hd : c ≠ p.digit) : (fill p c : StateM σ Char) = pure c := by
  unfold fill
  rw [if_neg hl, if_neg hd]

theorem fill_eq_standard {c : Char} (h : IsStandardSymbol c → c = p.letter ∨ c = p.digit) :
    (fill p c : StateM σ Char) = fill .standard (standardChar p c) := by
  have hne := Placeholders.standard.distinct
  by_cases hl : c = p.letter
  · simp only [fill, standardChar, hl, if_true]
  · by_cases hd : c = p.digit
    · have hdl : p.digit ≠ p.letter := p.distinct.symm
      simp only [fill, standardChar, hd, hdl, if_true, if_false, hne.symm]
    · have hs : ¬ IsStandardSymbol c := fun hc => (h hc).elim hl hd
      have hc : standardChar p c = c := by simp only [standardChar, hl, hd, if_false]
      rw [fill_of_ne p hl hd, hc, fill_of_ne .standard (fun he => hs (.inl he)) (fun he => hs (.inr he))]

theorem mapM_fill_eq_standard {cs : List Char} (h : ∀ c ∈ cs, IsStandardSymbol c → c = p.letter ∨ c = p.digit) :
    (cs.mapM (fill p) : StateM σ (List Char)) = (cs.map (standardChar p)).mapM (fill .standard) := by
  induction cs with
  | nil => rfl
  | cons c cs ih =>
    obtain ⟨hc, hcs⟩ := List.forall_mem_cons.mp h
    rw [List.mapM_cons, List.map_cons, List.mapM_cons, fill_eq_standard p hc, ih hcs]

/-- Expanding a mask with some symbols is expanding it with the standard ones in their places. -/
theorem expandWith_eq_expand {mask : String} (h : Standardizable p mask) :
    (expandWith p mask : StateM σ String) = expand (standardized p mask) := by
  unfold expand expandWith standardized
  rw [mapM_fill_eq_standard p h, String.toList_ofList]

/-- A mask can be expanded in two parts. -/
theorem expandWith_append (first second : String) :
    (expandWith p (first ++ second) : StateM σ String) = do
      let before ← expandWith p first
      let behind ← expandWith p second
      return before ++ behind := by
  unfold expandWith
  rw [String.toList_append, List.mapM_append]
  simp only [bind_assoc, pure_bind, String.ofList_append]

def IsDrawable (c : Char) : Prop := c.isUpper = true ∨ c.isDigit = true

instance (c : Char) : Decidable (IsDrawable c) := inferInstanceAs (Decidable (c.isUpper = true ∨ c.isDigit = true))

/-- A symbol that cannot be drawn does not come out of a symbol, and no other character turns into it. -/
theorem ne_of_fills {c d : Char} (h : Fills p c d) (hl : ¬ IsDrawable p.letter) (hd : ¬ IsDrawable p.digit) :
    d ≠ p.letter ∧ d ≠ p.digit := by
  have hdrawn : IsDrawable d → d ≠ p.letter ∧ d ≠ p.digit := by
    intro hc
    exact ⟨fun he => hl (he ▸ hc), fun he => hd (he ▸ hc)⟩
  unfold Fills at h
  split_ifs at h with hletter hdigit
  · exact hdrawn (.inl h)
  · exact hdrawn (.inr h)
  · exact ⟨h ▸ hletter, h ▸ hdigit⟩

theorem mapM_fill_of_forall_ne {cs : List Char} (h : ∀ c ∈ cs, c ≠ p.letter ∧ c ≠ p.digit) :
    (cs.mapM (fill p) : StateM σ (List Char)) = pure cs := by
  induction cs with
  | nil => rfl
  | cons c cs ih =>
    obtain ⟨hc, hcs⟩ := List.forall_mem_cons.mp h
    rw [List.mapM_cons, fill_of_ne p hc.1 hc.2, ih hcs]
    rfl

theorem forall_ne_of_fills {cs ds : List Char} (h : List.Forall₂ (Fills p) cs ds) (hl : ¬ IsDrawable p.letter)
    (hd : ¬ IsDrawable p.digit) : ∀ d ∈ ds, d ≠ p.letter ∧ d ≠ p.digit := by
  induction h with
  | nil => exact List.forall_mem_nil _
  | cons hc _ ih => exact List.forall_mem_cons.mpr ⟨ne_of_fills p hc hl hd, ih⟩

/-- What was expanded stays as it is when it is expanded again, unless a symbol can be drawn. -/
theorem expandWith_of_fits {mask text : String} (h : Fits p mask text) (hl : ¬ IsDrawable p.letter)
    (hd : ¬ IsDrawable p.digit) : (expandWith p text : StateM σ String) = pure text := by
  unfold expandWith
  rw [mapM_fill_of_forall_ne p (forall_ne_of_fills p h hl hd), pure_bind, String.ofList_toList]

/-- Symbols are only names, and expansion goes from left to right. For all symbols, a mask in which no standard symbol
stands for itself expands like the mask with the standard symbols in place of its own: the same text, and the same state
of the source behind it. A mask in two parts expands part by part, the second from where the first left the source. What
a mask expands to is expanded no further, and nothing is drawn for that, if neither symbol is a capital letter or a
digit. -/
theorem renamed_and_composed :
    (∀ mask, Standardizable p mask → ∀ w : σ, expandWith p mask w = expand (standardized p mask) w) ∧
    (∀ (first second : String) (w : σ), expandWith p (first ++ second) w =
      ((expandWith p first w).1 ++ (expandWith p second (expandWith p first w).2).1,
        (expandWith p second (expandWith p first w).2).2)) ∧
    (¬ IsDrawable p.letter → ¬ IsDrawable p.digit →
      ∀ mask (w w' : σ), expandWith p (expandWith p mask w).1 w' = ((expandWith p mask w).1, w')) := by
  refine ⟨?_, ?_, ?_⟩
  · intro mask h w
    rw [expandWith_eq_expand p h]
  · intro first second w
    rw [expandWith_append]
    rfl
  · intro hl hd mask w w'
    rw [expandWith_of_fits p (draws_expandWith p mask w) hl hd]
    rfl

def exchanged : Placeholders := ⟨'#', '@', by decide⟩

theorem renamed_and_composed_exchanged : Standardizable exchanged "#-@" ∧ standardized exchanged "#-@" = "@-#" ∧
    expandWith exchanged "#-@" WordStream.zeros = expand (standardized exchanged "#-@") WordStream.zeros ∧
    ¬ IsDrawable exchanged.letter ∧ ¬ IsDrawable exchanged.digit ∧
    expandWith exchanged (expandWith exchanged "#-@" WordStream.zeros).1 WordStream.zeros =
      ((expandWith exchanged "#-@" WordStream.zeros).1, WordStream.zeros) := by
  have hstandardizable : Standardizable exchanged "#-@" := by decide
  have hletter : ¬ IsDrawable exchanged.letter := by decide
  have hdigit : ¬ IsDrawable exchanged.digit := by decide
  obtain ⟨hrenamed, _, hagain⟩ := renamed_and_composed (σ := WordStream) exchanged
  exact ⟨hstandardizable, by decide, hrenamed _ hstandardizable _, hletter, hdigit, hagain hletter hdigit _ _ _⟩

end SampleData.Mask
