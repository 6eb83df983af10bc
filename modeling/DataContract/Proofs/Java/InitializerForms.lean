/-
The three forms that the text of a declaration can have.

A text has no `=` on its first line, or it goes on behind the first one there.
What stands behind that `=` has a `;` in it or none.  So every text has exactly
one of three forms, and the form with what stands between the two marks decides
what is cut out: neither what comes before the `=` nor what comes after the `;`
counts.
-/
import DataContract.Proofs.Java.InitializerTexts

namespace DataContract.Java

open DataContract.Text

/-- What the text of a declaration says about an initializer. -/
inductive InitializerForm where
  /-- There is none. -/
  | absent
  /-- There is one that ends, with the given text between its two marks. -/
  | terminated (between : List Char)
  /-- There is one that does not end. -/
  | unterminated

namespace InitializerForm

/-- The texts of a form. -/
def Fits (text : String) : InitializerForm → Prop
  | absent => '=' ∉ text.toList.takeWhile (· != '\n')
  | terminated between => HasInitializer text between
  | unterminated => IsUnterminated text

/-- What is cut out of a text of a form. -/
def outcome (text : String) : InitializerForm → Except UnterminatedInitializer (Option String)
  | absent => .ok none
  | terminated between => .ok (some (String.ofList (trim between)))
  | unterminated => .error ⟨text⟩

end InitializerForm

/-- Nothing stands behind an `=` of the first line exactly if there is none on it. -/
lemma afterEquals?_eq_none_iff {s : List Char} :
    afterEquals? s = none ↔ '=' ∉ s.takeWhile (· != '\n') := by
  induction s with
  | nil => simp [afterEquals?]
  | cons c s ih =>
    by_cases hequals : c = '='
    · simp [afterEquals?, hequals]
    · by_cases hline : c = '\n'
      · simp [afterEquals?, hline]
      · simp [afterEquals?, hequals, hline, ih, Ne.symm hequals]

/-- A text has one initializer at most. -/
lemma HasInitializer.unique {text : String} {value other : List Char}
    (h : HasInitializer text value) (h' : HasInitializer text other) : value = other := by
  obtain ⟨after, ⟨before, htext, hbefore, -⟩, hvalue⟩ := h
  obtain ⟨after', ⟨before', htext', hbefore', -⟩, hother⟩ := h'
  have hbehind := (eq_of_append_cons_eq hbefore hbefore' (htext.symm.trans htext')).2
  exact (eq_of_append_cons_eq hvalue hother hbehind).1

namespace InitializerForm

variable {text : String}

lemma extract_eq_outcome {form : InitializerForm} (h : form.Fits text) :
    extract text = form.outcome text := by
  cases form with
  | absent =>
    rw [extract, afterEquals?_eq_none_iff.mpr h]
    rfl
  | terminated between => exact extract_of_hasInitializer h
  | unterminated => exact extract_eq_error_iff.mpr ⟨h, rfl⟩

lemma exists_fits (text : String) : ∃ form : InitializerForm, form.Fits text := by
  cases hequals : afterEquals? text.toList with
  | none => exact ⟨absent, afterEquals?_eq_none_iff.mp hequals⟩
  | some rest =>
    have hbehind := afterEquals?_eq_some_iff.mp hequals
    by_cases hend : ';' ∈ rest
    · obtain ⟨between, after, rfl, hbetween⟩ := List.eq_append_cons_of_mem hend
      exact ⟨terminated between, after, hbehind, hbetween⟩
    · exact ⟨unterminated, rest, hbehind, hend⟩

/-- Two forms of a text are the same: they have the same outcome, and what stands between the marks
is found at the first `=` and the next `;`. -/
lemma Fits.unique {form other : InitializerForm} (h : form.Fits text) (h' : other.Fits text) :
    form = other := by
  have houtcome : form.outcome text = other.outcome text :=
    (extract_eq_outcome h).symm.trans (extract_eq_outcome h')
  cases form with
  | absent =>
    cases other with
    | absent => rfl
    | terminated _ => cases houtcome
    | unterminated => cases houtcome
  | terminated between =>
    cases other with
    | absent => cases houtcome
    | terminated between' => rw [HasInitializer.unique h h']
    | unterminated => cases houtcome
  | unterminated =>
    cases other with
    | absent => cases houtcome
    | terminated _ => cases houtcome
    | unterminated => rfl

end InitializerForm

/-- **A text has exactly one of three forms, and what is cut out of it depends on its form only.**
Nothing is cut out if there is no `=` on the first line.  Otherwise it is the text between the first
`=` and the next `;`, without its blank ends, and if no `;` follows then it fails.  A `;` in front
of the `=` makes no difference, nor does anything after the next one. -/
theorem extract_by_unique_form (text : String) :
    (∃! form : InitializerForm, form.Fits text) ∧
    (∀ form : InitializerForm, form.Fits text → extract text = form.outcome text) ∧
    ∀ before between after : List Char, '=' ∉ before → '\n' ∉ before → ';' ∉ between →
      text.toList = before ++ '=' :: (between ++ ';' :: after) →
        ∀ other rest : List Char, '=' ∉ other → '\n' ∉ other →
          extract (String.ofList (other ++ '=' :: (between ++ ';' :: rest))) = extract text := by
  refine ⟨?_, fun form => InitializerForm.extract_eq_outcome, ?_⟩
  · obtain ⟨form, hform⟩ := InitializerForm.exists_fits text
    exact ⟨form, hform, fun other hother => hother.unique hform⟩
  · intro before between after hequals hline hend htext other rest hequals' hline'
    have hthis : HasInitializer text between := ⟨after, ⟨before, htext, hequals, hline⟩, hend⟩
    have hother :
        HasInitializer (String.ofList (other ++ '=' :: (between ++ ';' :: rest))) between :=
      ⟨rest, ⟨other, String.toList_ofList, hequals', hline'⟩, hend⟩
    rw [extract_of_hasInitializer hthis, extract_of_hasInitializer hother]

/-- The accessors in front of the `=` and the comment after the `;` are passed over. -/
theorem extract_behind_accessors :
    extract "=\n 5 ;" = extract "{ get; set; } =\n 5 ; // = 6;" ∧
      extract "{ get; set; } =\n 5 ; // = 6;" = .ok (some "5") := by
  obtain ⟨-, hform, hsame⟩ := extract_by_unique_form "{ get; set; } =\n 5 ; // = 6;"
  have htext : "{ get; set; } =\n 5 ; // = 6;".toList =
      "{ get; set; } ".toList ++ '=' :: ("\n 5 ".toList ++ ';' :: " // = 6;".toList) := by
    decide
  have hbefore : '=' ∉ "{ get; set; } ".toList ∧ '\n' ∉ "{ get; set; } ".toList := by
    decide
  have hbetween : ';' ∉ "\n 5 ".toList := by decide
  refine ⟨?_, ?_⟩
  · exact hsame _ _ _ hbefore.1 hbefore.2 hbetween htext [] [] List.not_mem_nil List.not_mem_nil
  · exact hform (.terminated "\n 5 ".toList) ⟨_, ⟨_, htext, hbefore.1, hbefore.2⟩, hbetween⟩

end DataContract.Java
