import SampleData.Proofs.Checksum.Identifiers
import SampleData.Proofs.Personal.StoredAge
import SampleData.Proofs.Provider.Supply
import SampleData.Provider.Internet

/-! # Calls for personal data that are sure to succeed

With arguments in order and a bundle that has what is picked from it, every call for personal data succeeds; those for
user names need a source that provides the English names. Links of the internet provider need the names and nothing
else.
-/
namespace SampleData

open Gen

variable {σ : Type} [WordSource σ]

namespace Personal

def namePaths : List String := ["names.female", "names.male"]

def namesSupplied (b : Bundle) : Bool := b.stocks namePaths

theorem succeeds_name {b : Bundle} (h : namesSupplied b = true) (gender : Gender) :
    Succeeds Anywhere (name b gender : Gen σ String) Any := by
  cases gender with
  | female => exact Bundle.succeeds_pick_of_stocks h (by decide)
  | male => exact Bundle.succeeds_pick_of_stocks h (by decide)

theorem succeeds_usernameFrom {names : Bundle} (h : namesSupplied names = true) (gender : Gender) :
    Succeeds Anywhere (usernameFrom names gender : Gen σ String) Any :=
  (succeeds_name h gender).bind fun _ _ => (succeeds_drawn _).bind fun _ _ => succeeds_pure trivial

theorem succeeds_emailFrom {names : Bundle} (h : namesSupplied names = true) (gender : Gender) :
    Succeeds Anywhere (emailFrom names gender : Gen σ String) Any :=
  (succeeds_usernameFrom h gender).bind fun _ _ => (succeeds_drawn _).bind fun _ _ => succeeds_pure trivial

theorem succeeds_creditCardExpirationDate {lower upper : UInt32} (h : lower ≤ upper) :
    Succeeds Anywhere (creditCardExpirationDate lower upper : Gen σ String) Any := by
  refine (succeeds_unsigned _ h).bind fun _ _ => (succeeds_drawn _).bind fun month _ => ?_
  exact (succeeds_drawn _).bind fun year _ => succeeds_pure trivial

theorem succeeds_height {lower upper : Float} (h : Bounds.real "height" lower upper = .ok ()) :
    Succeeds Anywhere (height lower upper : Gen σ String) Any := by
  refine (succeeds_real h).bind fun _ _ => ?_
  split
  · exact succeeds_pure trivial
  · exact (succeeds_drawn _).bind fun metres _ => succeeds_pure trivial

theorem succeeds_weight {lower upper : UInt32} (h : lower ≤ upper) :
    Succeeds Anywhere (weight lower upper : Gen σ UInt32) Any :=
  (succeeds_unsigned _ h).bind fun _ _ => succeeds_drawn _

def offersBy (b : Bundle) (key : String) : Bool :=
  match b.require key with
  | .ok (.object _) => b.stocks [key ++ ".female", key ++ ".male"]
  | .ok _ => b.stocks [key]
  | .error _ => false

def paths : List String :=
  ["title.female.typical", "title.female.academic", "title.male.typical", "title.male.academic", "gender", "sexuality",
   "political_views", "worldview", "views_on", "favorite_movie", "occupation", "university", "academic_degree",
   "language"]

def supplied (b : Bundle) : Bool :=
  namesSupplied b && b.stocks paths && offersBy b "surnames" && offersBy b "nationality" &&
    (!(b.get? "telephone_fmt").isSome || b.stocks ["telephone_fmt"])

structure Supplied (b : Bundle) : Prop where
  names : namesSupplied b = true
  paths : b.stocks paths = true
  surnames : offersBy b "surnames" = true
  nationality : offersBy b "nationality" = true
  telephone : (b.get? "telephone_fmt").isSome = true → b.stocks ["telephone_fmt"] = true

theorem supplied_iff {b : Bundle} : supplied b = true ↔ Supplied b := by
  unfold supplied
  simp only [Bool.and_eq_true, Bool.or_eq_true, Bool.not_eq_true', ← Bool.not_eq_true]
  constructor
  · rintro ⟨⟨⟨⟨hnames, hpaths⟩, hsurnames⟩, hnationality⟩, htelephone⟩
    exact ⟨hnames, hpaths, hsurnames, hnationality, fun hs => htelephone.resolve_left (not_not_intro hs)⟩
  · rintro ⟨hnames, hpaths, hsurnames, hnationality, htelephone⟩
    exact ⟨⟨⟨⟨hnames, hpaths⟩, hsurnames⟩, hnationality⟩, Decidable.not_or_of_imp htelephone⟩

variable {b : Bundle}

theorem succeeds_gendered {key : String} (h : offersBy b key = true) (gender : Gender) :
    Succeeds Anywhere (do b.pick (← genderedPath b key gender) : Gen σ String) Any := by
  unfold genderedPath
  unfold offersBy at h
  have hg : key ++ "." ++ OptionSet.name gender ∈ [key ++ ".female", key ++ ".male"] := by
    cases gender <;> simp [OptionSet.name, OptionSet.spellings, String.append_assoc]
  cases hr : b.require key with
  | error fault => simp [hr] at h
  | ok v =>
    rw [hr] at h
    cases v with
    | object fields => exact Bundle.succeeds_pick_of_stocks h hg
    | _ => exact Bundle.succeeds_pick_of_stocks h List.mem_cons_self

theorem succeeds_telephone (h : Supplied b) (mask : Option String) {placeholder : Char} (hp : placeholder ≠ '@') :
    Succeeds Anywhere (telephone b mask placeholder : Gen σ String) Any := by
  have hs : Placeholders.withDigit placeholder = .ok ⟨'@', placeholder, Ne.symm hp⟩ := dif_neg (Ne.symm hp)
  refine Succeeds.bind (Q := Any) (succeeds_accept hs trivial) fun symbols _ => ?_
  cases mask with
  | some mask => exact Succeeds.bind (Q := Any) (succeeds_pure trivial) fun _ _ => succeeds_drawn _
  | none =>
    dsimp only
    split
    · next ht =>
      exact (Bundle.succeeds_pick_of_stocks (h.telephone ht) List.mem_cons_self).bind fun _ _ => succeeds_drawn _
    · exact Succeeds.bind (Q := Any) (succeeds_pure trivial) fun _ _ => succeeds_drawn _

def Call.Admissible : Call → Prop
  | .age lower upper => lower ≤ upper
  | .weight lower upper => lower ≤ upper
  | .creditCardExpirationDate lower upper => lower ≤ upper
  | .height lower upper => Bounds.real "height" lower upper = .ok ()
  | .telephone _ placeholder => placeholder ≠ '@'
  | _ => True

omit [WordSource σ] in
theorem succeeds_onWords {α : Type} {Q : α → Prop} {step : Bundle → Gen σ α}
    (h : ∀ b, Supplied b → Succeeds Anywhere (step b) Q) :
    Succeeds (fun p : Personal σ => Supplied p.bundle) (onWords step) Q := by
  rintro ⟨b, words, slot⟩ hb
  obtain ⟨a, after, ho, ha, _⟩ := h b hb words trivial
  refine ⟨a, ⟨b, after, slot⟩, ?_, ha, hb⟩
  simp only [onWords, focus, ho]

theorem succeeds_age {lower upper : UInt32} (h : lower ≤ upper) :
    Succeeds (fun p : Personal σ => Supplied p.bundle) (age lower upper) Any :=
  fun p hp => ⟨_, _, age_of_le h p, trivial, hp⟩

theorem succeeds_currentAge : Succeeds (fun p : Personal σ => Supplied p.bundle) currentAge Any := by
  intro p hp
  cases ha : p.storedAge with
  | holding n => exact ⟨n, p, currentAge_of_holding ha, trivial, hp⟩
  | unset =>
    rw [currentAge_of_unset ha]
    exact succeeds_age (by decide) p hp

theorem succeeds_childCount (limit : UInt32) :
    Succeeds (fun p : Personal σ => Supplied p.bundle) (childCount limit) Any := by
  refine succeeds_currentAge.bind fun n _ => ?_
  split
  · exact succeeds_pure trivial
  · have hd : Succeeds _ (onWords fun _ => Gen.draw (Random.unsigned 0 limit) : Gen (Personal σ) UInt32) Any :=
      succeeds_onWords fun _ _ => succeeds_drawn _
    exact hd

theorem succeeds_workExperience (start : UInt32) :
    Succeeds (fun p : Personal σ => Supplied p.bundle) (workExperience start) Any :=
  succeeds_currentAge.bind fun _ _ => succeeds_pure trivial

def Ready (source : Source) (st : Personal σ × Store) : Prop := Supplied st.1.bundle ∧ Store.Faithful source st.2

variable {source : Source}

omit [WordSource σ] in
theorem succeeds_numberOf {step : Gen (Personal σ) UInt32}
    (h : Succeeds (fun p : Personal σ => Supplied p.bundle) step Any) : Succeeds (Ready source) (numberOf step) Any :=
  Succeeds.onFirst (h.map fun _ _ => trivial) (fun _ hst => hst.1) fun _ _ hst hp => ⟨hp, hst.2⟩

omit [WordSource σ] in
theorem succeeds_textOf {step : Bundle → Gen σ String} (h : ∀ b, Supplied b → Succeeds Anywhere (step b) Any) :
    Succeeds (Ready source) (textOf step) Any :=
  Succeeds.onFirst ((succeeds_onWords h).map fun _ _ => trivial) (fun _ hst => hst.1) fun _ _ hst hp => ⟨hp, hst.2⟩

omit [WordSource σ] in
theorem succeeds_withEnglish (hs : source.Provides domain Locale.standard namesSupplied) {step : Bundle → Gen σ String}
    (h : ∀ b, namesSupplied b = true → Succeeds Anywhere (step b) Any) :
    Succeeds (Ready source) (withEnglish step) Any := by
  have hload : Succeeds (Ready (σ := σ) source) (Gen.onSecond (Store.load domain Locale.standard))
      fun b => namesSupplied b = true := by
    rintro ⟨p, store⟩ ⟨hp, hf⟩
    obtain ⟨b, after, ho, hb, ha⟩ := hs.load store hf
    refine ⟨b, (p, after), ?_, hb, hp, ha⟩
    simp only [Gen.onSecond, focus, ho]
  exact hload.bind fun english he => succeeds_textOf fun _ _ => h english he

/-- With the bundles it needs, the provider answers every call with admissible arguments. -/
theorem succeeds_perform (hs : source.Provides domain Locale.standard namesSupplied) {call : Call}
    (hc : call.Admissible) : Succeeds (Ready source) (perform call : Gen (Personal σ × Store) Json) Any := by
  have hp : ∀ {path : String}, path ∈ paths → ∀ b, Supplied b → Succeeds Anywhere (b.pick path : Gen σ String) Any :=
    fun hm b hb => Bundle.succeeds_pick_of_stocks hb.paths hm
  have hdraw : ∀ step : StateM σ String, Succeeds (Ready source) (textOf fun _ => Gen.draw step) Any :=
    fun step => succeeds_textOf fun _ _ => succeeds_drawn step
  cases call with
  | age lower upper => exact succeeds_numberOf (succeeds_age hc)
  | storedAge =>
    intro st hst
    exact ⟨_, st, perform_storedAge st, trivial, hst⟩
  | childCount limit => exact succeeds_numberOf (succeeds_childCount limit)
  | workExperience start => exact succeeds_numberOf (succeeds_workExperience start)
  | name gender => exact succeeds_textOf fun b hb => succeeds_name hb.names gender
  | surname gender => exact succeeds_textOf fun b hb => succeeds_gendered hb.surnames gender
  | fullName gender reverse =>
    refine succeeds_textOf fun b hb => (succeeds_name hb.names gender).bind fun first _ => ?_
    exact Succeeds.bind (Q := Any) (succeeds_gendered hb.surnames gender) fun last _ => succeeds_pure trivial
  | title gender kind =>
    cases gender <;> cases kind <;> exact succeeds_textOf (hp (by decide))
  | username gender => exact succeeds_withEnglish hs fun b hb => succeeds_usernameFrom hb gender
  | password length algorithm => exact hdraw _
  | email gender => exact succeeds_withEnglish hs fun b hb => succeeds_emailFrom hb gender
  | paypal gender => exact succeeds_withEnglish hs fun b hb => succeeds_emailFrom hb gender
  | bitcoin => exact hdraw _
  | creditCardNumber card => exact succeeds_textOf fun _ _ => (succeeds_creditCardNumber card).any
  | creditCardExpirationDate lower upper =>
    exact succeeds_textOf fun _ _ => succeeds_creditCardExpirationDate hc
  | cvv => exact succeeds_numberOf (succeeds_onWords fun _ _ => succeeds_drawn _)
  | cid => exact succeeds_numberOf (succeeds_onWords fun _ _ => succeeds_drawn _)
  | gender symbol =>
    cases symbol with
    | true => exact hdraw (Random.choose genderSymbols)
    | false => exact succeeds_textOf (hp (by decide))
  | sexualOrientation symbol =>
    cases symbol with
    | true => exact hdraw (Random.choose orientationSymbols)
    | false => exact succeeds_textOf (hp (by decide))
  | politicalViews => exact succeeds_textOf (hp (by decide))
  | worldview => exact succeeds_textOf (hp (by decide))
  | viewsOn => exact succeeds_textOf (hp (by decide))
  | favoriteMovie => exact succeeds_textOf (hp (by decide))
  | favoriteMusicGenre => exact hdraw _
  | levelOfEnglish => exact hdraw _
  | avatar size => exact hdraw _
  | occupation => exact succeeds_textOf (hp (by decide))
  | nationality gender => exact succeeds_textOf fun b hb => succeeds_gendered hb.nationality gender
  | university => exact succeeds_textOf (hp (by decide))
  | academicDegree => exact succeeds_textOf (hp (by decide))
  | language => exact succeeds_textOf (hp (by decide))
  | telephone mask placeholder => exact succeeds_textOf fun b hb => succeeds_telephone hb mask hc
  | identifier mask => exact hdraw _
  | bloodType => exact hdraw _
  | height lower upper => exact succeeds_textOf fun _ _ => succeeds_height hc
  | weight lower upper => exact succeeds_numberOf (succeeds_onWords fun _ _ => succeeds_weight hc)
  | describe => exact succeeds_textOf fun _ _ => succeeds_pure trivial
  | locale => exact succeeds_textOf fun _ _ => succeeds_pure trivial

theorem admissible_fields : ∀ e ∈ fields, e.2.Admissible := by
  have hh : Bounds.real "height" 1.5 2.0 = .ok () := rfl
  simp only [fields, List.forall_mem_cons, Call.Admissible, List.not_mem_nil, false_implies, implies_true, hh]
  decide

abbrev bundleOf (p : Personal σ) : Bundle := p.bundle

theorem bundle_age (lower upper : UInt32) : Keeps (bundleOf (σ := σ)) (age lower upper) := by
  intro p
  by_cases h : lower ≤ upper
  · rw [age_of_le h]
    rfl
  · rw [age_of_lt (UInt32.not_le.mp h)]
    rfl

theorem bundle_currentAge : Keeps (bundleOf (σ := σ)) currentAge := by
  intro p
  cases ha : p.storedAge with
  | holding n => rw [currentAge_of_holding ha, left_ok]
  | unset =>
    rw [currentAge_of_unset ha]
    exact bundle_age leastAge greatestAge p

omit [WordSource σ] in
theorem bundle_onWords {α : Type} (step : Bundle → Gen σ α) : Keeps bundleOf (onWords step) := by
  intro p
  unfold onWords focus
  cases step p.bundle p.words <;> rfl

omit [WordSource σ] in
theorem bundle_textOf (step : Bundle → Gen σ String) :
    Keeps (fun st : Personal σ × Store => bundleOf st.1) (textOf step) :=
  ((bundle_onWords step).map Json.str).onFirst

omit [WordSource σ] in
theorem bundle_numberOf {step : Gen (Personal σ) UInt32} (h : Keeps bundleOf step) :
    Keeps (fun st : Personal σ × Store => bundleOf st.1) (numberOf step) :=
  (h.map _).onFirst

omit [WordSource σ] in
theorem bundle_withEnglish (step : Bundle → Gen σ String) :
    Keeps (fun st : Personal σ × Store => bundleOf st.1) (withEnglish step) :=
  (keeps_onSecond bundleOf _).bind fun _ => bundle_textOf _

theorem bundle_childCount (limit : UInt32) : Keeps (bundleOf (σ := σ)) (childCount limit) := by
  refine bundle_currentAge.bind fun n => ?_
  split
  · exact keeps_pure _
  · exact bundle_onWords fun _ => Gen.draw (Random.unsigned 0 limit)

/-- No call changes the bundle, whether it goes well or fails. -/
theorem bundle_perform (call : Call) : Keeps (fun st : Personal σ × Store => bundleOf st.1) (perform call) := by
  cases call with
  | age lower upper => exact bundle_numberOf (bundle_age lower upper)
  | storedAge =>
    intro st
    rw [perform_storedAge, left_ok]
  | childCount limit => exact bundle_numberOf (bundle_childCount limit)
  | workExperience start => exact bundle_numberOf (bundle_currentAge.bind fun _ => keeps_pure _)
  | username gender => exact bundle_withEnglish _
  | email gender => exact bundle_withEnglish _
  | paypal gender => exact bundle_withEnglish _
  | cvv => exact bundle_numberOf (bundle_onWords _)
  | cid => exact bundle_numberOf (bundle_onWords _)
  | weight lower upper => exact bundle_numberOf (bundle_onWords _)
  | _ => exact bundle_textOf _

end Personal

namespace Internet

theorem succeeds_homePage {names : Bundle} (h : Personal.namesSupplied names = true) (gender : Gender) :
    Succeeds Anywhere (homePage names gender : Gen σ String) Any :=
  (Personal.succeeds_usernameFrom h gender).bind fun _ _ => (succeeds_drawn _).bind fun _ _ => succeeds_pure trivial

theorem succeeds_perform {names : Bundle} (h : Personal.namesSupplied names = true) (call : Call) :
    Succeeds Anywhere (perform names call : Gen σ Json) Any := by
  have hlink : ∀ (address : String) (gender : Gender),
      Succeeds Anywhere (do return address ++ (← Personal.usernameFrom names gender) : Gen σ String) Any :=
    fun _ gender => (Personal.succeeds_usernameFrom h gender).bind fun _ _ => succeeds_pure trivial
  cases call with
  | imagePlaceholder width height => exact succeeds_pure trivial
  | hashtags quantity category => exact (succeeds_drawn _).texts
  | twitter gender => exact (hlink _ gender).text
  | facebook gender => exact (hlink _ gender).text
  | homePage gender => exact (succeeds_homePage h gender).text
  | _ => exact (succeeds_drawn _).text

end Internet

end SampleData
