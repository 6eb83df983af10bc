/-
Declarations whose initializer gives no value.

An initializer stands behind the first `=` of a declaration, if that is on the
first line, and ends at the next `;`.  It gives no value if it does not end, if
it is blank, and if it is one of the words that stand for no value.  A property
with such an initializer is written as one without any; only an initializer that
does not end is noticed.  The initializer of a static property is not looked at
unless all of its class is static.
-/
import DataContract.Proofs.Java.Initializers

namespace DataContract.Java

open DataContract.Text

/-! ### Where an initializer stands -/

/-- What stands behind the first `=` of a text, if that is on the first line. -/
def IsBehindEquals (text rest : List Char) : Prop :=
  ∃ before, text = before ++ '=' :: rest ∧ '=' ∉ before ∧ '\n' ∉ before

/-- A declaration with an initializer that does not end. -/
def IsUnterminated (text : String) : Prop :=
  ∃ rest, IsBehindEquals text.toList rest ∧ ';' ∉ rest

/-- What stands between the first `=` of a declaration, on the first line, and the next `;`. -/
def HasInitializer (text : String) (value : List Char) : Prop :=
  ∃ after, IsBehindEquals text.toList (value ++ ';' :: after) ∧ ';' ∉ value

/-- Nothing but blanks, or a word for no value with nothing but blanks around it. -/
def StandsForNothing (value : List Char) : Prop :=
  ∃ left word right, value = left ++ word ++ right ∧ allBlank left = true ∧
    allBlank right = true ∧ (word = [] ∨ word = "null".toList ∨ word = "null!".toList)

/-- A declaration with an initializer that gives no value. -/
def IsUnusable (text : String) : Prop :=
  IsUnterminated text ∨ ∃ value, HasInitializer text value ∧ StandsForNothing value

lemma afterEquals?_eq_some_iff {s rest : List Char} :
    afterEquals? s = some rest ↔ IsBehindEquals s rest := by
  constructor
  · intro h
    induction s with
    | nil => cases h
    | cons c s ih =>
      rw [afterEquals?] at h
      split at h
      · rename_i hc
        cases h
        rw [beq_iff_eq] at hc
        exact ⟨[], by rw [hc]; rfl, List.not_mem_nil, List.not_mem_nil⟩
      · rename_i hc
        split at h
        · cases h
        · rename_i hline
          rw [beq_iff_eq] at hc hline
          obtain ⟨before, rfl, hequals, hfeed⟩ := ih h
          exact ⟨c :: before, rfl, by simp [hequals, Ne.symm hc], by simp [hfeed, Ne.symm hline]⟩
  · rintro ⟨before, rfl, hequals, hfeed⟩
    refine afterEquals?_append (fun c hc => ⟨?_, ?_⟩) rest
    · rintro rfl
      exact hequals hc
    · rintro rfl
      exact hfeed hc

/-- Cutting out an initializer fails exactly if it does not end. -/
lemma extract_eq_error_iff {text : String} {e : UnterminatedInitializer} :
    extract text = .error e ↔ IsUnterminated text ∧ e = ⟨text⟩ := by
  rw [extract, IsUnterminated]
  simp only [← afterEquals?_eq_some_iff]
  cases afterEquals? text.toList with
  | none => simp
  | some rest =>
    cases hsplit : splitFirst? [';'] rest with
    | some parts =>
      obtain ⟨value, after⟩ := parts
      have hmem : ';' ∈ rest := by
        rw [eq_of_splitFirst? hsplit]
        simp
      simp [hsplit, hmem]
    | none =>
      -- without a split there is no end behind the `=`
      have hmem : ';' ∉ rest := by
        intro h
        obtain ⟨front, back, rfl⟩ := List.append_of_mem h
        exact splitFirst?_eq_none_iff.mp hsplit ⟨front, back, by simp⟩
      simp [hsplit, hmem, eq_comm]

lemma extract_of_hasInitializer {text : String} {value : List Char}
    (h : HasInitializer text value) : extract text = .ok (some (String.ofList (trim value))) := by
  obtain ⟨after, hbehind, hvalue⟩ := h
  rw [extract, afterEquals?_eq_some_iff.mpr hbehind]
  simp only [splitFirst?_singleton hvalue]

instance (text : String) : Decidable (IsUnterminated text) :=
  decidable_of_iff (extract text = .error ⟨text⟩) (by rw [extract_eq_error_iff]; simp)

/-! ### Initializers without a value -/

lemma initialValue_of_standsForNothing {value : List Char} (h : StandsForNothing value) :
    initialValue (some (String.ofList (trim value))) = none := by
  obtain ⟨left, word, right, rfl, hleft, hright, hword⟩ := h
  rcases hword with rfl | rfl | rfl
  · rw [trim_append_blank hleft hright (by simp) (by simp)]
    rfl
  · rw [trim_append_blank hleft hright (by rintro c ⟨⟩; rfl) (by rintro c ⟨⟩; rfl)]
    decide
  · rw [trim_append_blank hleft hright (by rintro c ⟨⟩; rfl) (by rintro c ⟨⟩; rfl)]
    decide

/-! ### The values of properties -/

/-- A static property of a class that is not static as a whole; the companion has its value. -/
def IsKeptByCompanion (d : Declaration) (p : Property) : Prop :=
  p.isStatic = true ∧ d.isStaticClass = false

instance (d : Declaration) (p : Property) : Decidable (IsKeptByCompanion d p) :=
  inferInstanceAs (Decidable (_ ∧ _))

/-- The warning of a property whose initializer is looked at and does not end. -/
def initializerWarning? (d : Declaration) (p : Property) : Option Notice :=
  p.initializer.bind (fun text =>
    if ¬ IsKeptByCompanion d p ∧ IsUnterminated text then
      some (Dialect.initializerNotice d.name p.name ⟨text⟩)
    else none)

namespace Dialect

variable (x : Dialect) {d : Declaration} {p : Property}

lemma propertyValue_of_kept (h : IsKeptByCompanion d p) :
    x.propertyValue d p = pure (some (x.companion.reference d.name (identifier p.name))) := by
  rw [propertyValue, h.1, h.2]
  rfl

lemma propertyValue_of_not_kept (h : ¬ IsKeptByCompanion d p) :
    x.propertyValue d p =
      match p.initializer.mapM extract with
      | .ok initializer => pure (initialValue initializer.join)
      | .error e => do
        Draft.notify (initializerNotice d.name p.name e)
        return none := by
  have hown : (p.isStatic && !d.isStaticClass) = false := by
    rw [Bool.eq_false_iff]
    intro hkept
    rw [Bool.and_eq_true, Bool.not_eq_true'] at hkept
    exact h hkept
  rw [propertyValue, hown]
  rfl

/-- The value of a property is found without failing, and only an initializer is warned of. -/
lemma exists_propertyValue (d : Declaration) (p : Property) :
    ∃ value, x.propertyValue d p = ⟨.ok value, [], (initializerWarning? d p).toList⟩ := by
  by_cases hkept : IsKeptByCompanion d p
  · have hnone : initializerWarning? d p = none := by simp [initializerWarning?, hkept]
    rw [x.propertyValue_of_kept hkept, hnone]
    exact ⟨_, rfl⟩
  · rw [x.propertyValue_of_not_kept hkept, initializerWarning?]
    cases p.initializer with
    | none => exact ⟨none, rfl⟩
    | some text =>
      rw [Option.mapM_some, Option.bind_some]
      cases hextract : extract text with
      | ok expression =>
        have hends : ¬ IsUnterminated text := by
          intro h
          rw [extract_eq_error_iff.mpr ⟨h, rfl⟩] at hextract
          cases hextract
        rw [if_neg (fun h => hends h.2)]
        exact ⟨_, rfl⟩
      | error e =>
        obtain ⟨hopen, rfl⟩ := extract_eq_error_iff.mp hextract
        rw [if_pos ⟨hkept, hopen⟩]
        exact ⟨none, rfl⟩

/-- A property has no value if its initializer is looked at and gives none. -/
lemma propertyValue_outcome_of_unusable (hkept : ¬ IsKeptByCompanion d p)
    (h : ∀ text, p.initializer = some text → IsUnusable text) :
    (x.propertyValue d p).outcome = .ok none := by
  rw [x.propertyValue_of_not_kept hkept]
  cases hsource : p.initializer with
  | none => rfl
  | some text =>
    rw [Option.mapM_some]
    rcases h text hsource with hopen | ⟨value, hvalue, hnothing⟩
    · rw [extract_eq_error_iff.mpr ⟨hopen, rfl⟩]
      rfl
    · rw [extract_of_hasInitializer hvalue]
      change Except.ok (initialValue _) = _
      exact congrArg Except.ok (initialValue_of_standsForNothing hnothing)

end Dialect

end DataContract.Java
