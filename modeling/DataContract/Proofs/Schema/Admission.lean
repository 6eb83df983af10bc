/-
The values that a schema admits.

A schema admits a value in which the check finds no issue.  Each kind of schema
admits the values of a form that is described here without the check: a text
that matches a pattern, a list whose items are admitted, a mapping that has its
required entries and in which the entries with schemas are admitted.
-/
import DataContract.Proofs.Schema.Issues
import DataContract.Proofs.Schema.Pattern
import Mathlib.Data.List.Nodup

namespace DataContract

/-! ### Forms of values -/

namespace Value

/-- There is a value under a name, and it has a form. -/
def Requires (v : Value) (name : String) (form : Value → Prop) : Prop :=
  ∃ x, v.field? name = some x ∧ form x

/-- If there is a value under a name, then it has a form. -/
def Allows (v : Value) (name : String) (form : Value → Prop) : Prop :=
  ∀ x, v.field? name = some x → form x

lemma Requires.allows {v : Value} {name : String} {form : Value → Prop}
    (h : v.Requires name form) : v.Allows name form := by
  obtain ⟨x, hx, hform⟩ := h
  intro y hy
  rw [hx, Option.some.injEq] at hy
  exact hy ▸ hform

lemma Allows.requires {v x : Value} {name : String} {form : Value → Prop}
    (h : v.Allows name form) (hx : v.field? name = some x) : v.Requires name form :=
  ⟨x, hx, h x hx⟩

/-- What is required has to be there, and to have its form if it is there. -/
lemma requires_iff {v : Value} {name : String} {form : Value → Prop} :
    v.Requires name form ↔ (∃ x, v.field? name = some x) ∧ v.Allows name form := by
  constructor
  · intro h
    obtain ⟨x, hx, -⟩ := id h
    exact ⟨⟨x, hx⟩, h.allows⟩
  · rintro ⟨⟨x, hx⟩, h⟩
    exact h.requires hx

lemma allows_congr {v : Value} {name : String} {f g : Value → Prop} (h : ∀ x, f x ↔ g x) :
    v.Allows name f ↔ v.Allows name g :=
  forall₂_congr (fun x _ => h x)

/-- A text. -/
def IsText (v : Value) : Prop := ∃ s, v = .str s

/-- A text with at least one character. -/
def IsNonEmptyText (v : Value) : Prop := ∃ s, v = .str s ∧ s ≠ ""

/-- One of some words. -/
def IsWordOf (words : List String) (v : Value) : Prop := ∃ s ∈ words, v = .str s

/-- A truth value. -/
def IsTruthValue (v : Value) : Prop := ∃ b, v = .bool b

/-- A text that matches a pattern. -/
def IsTextLike (p : Pattern) (v : Value) : Prop := ∃ s, v = .str s ∧ p.Matches s

/-- A list of values of a form. -/
def IsListOf (form : Value → Prop) (v : Value) : Prop :=
  ∃ items, v = .list items ∧ ∀ x ∈ items, form x

end Value

namespace Schema

open Value

/-- A schema admits the values in which the check finds no issue. -/
def Admits (s : Schema) (v : Value) : Prop := issues s [] v = []

/-- What is admitted as an item of a list. -/
def AdmitsItem (item : Schema) (v : Value) : Prop := issuesOfItem item [] v = []

lemma issues_eq_nil_iff {s : Schema} {place : Location} {v : Value} :
    issues s place v = [] ↔ s.Admits v := by
  have h := issues_below place s [] v
  rw [List.append_nil] at h
  rw [h, List.map_eq_nil_iff, Admits]

lemma issuesOfItem_eq_nil_iff {item : Schema} {place : Location} {v : Value} :
    issuesOfItem item place v = [] ↔ item.AdmitsItem v := by
  have h := issuesOfItem_below place [] (fun s p => issues_below place s p v) item
  rw [List.append_nil] at h
  rw [h, List.map_eq_nil_iff, AdmitsItem]

/-! ### Values without parts -/

lemma textIssues_eq_nil_iff {rule : TextRule} {s : String} {place : Location} :
    textIssues rule s place = [] ↔
      (∀ n, rule.minLength = some n → n ≤ s.length) ∧
        ∀ p, rule.pattern = some p → p.Matches s := by
  rw [textIssues, List.append_eq_nil_iff]
  refine and_congr ?_ ?_
  · cases rule.minLength with
    | none => simp
    | some least => simp
  · cases rule.pattern with
    | none => simp
    | some p => simp [Pattern.fits_iff]

lemma admits_text_iff {rule : TextRule} {v : Value} :
    (Schema.text rule).Admits v ↔
      ∃ s, v = .str s ∧ (∀ n, rule.minLength = some n → n ≤ s.length) ∧
        ∀ p, rule.pattern = some p → p.Matches s := by
  cases v with
  | str s => simp [Admits, issues, resolve, scalarIssues, textIssues_eq_nil_iff]
  | _ => simp [Admits, issues, resolve, scalarIssues, wrongType]

lemma admits_word_iff {allowed : List String} {v : Value} :
    (Schema.word allowed).Admits v ↔ v.IsWordOf allowed := by
  cases v with
  | str s => simp [Admits, issues, resolve, scalarIssues, IsWordOf]
  | _ => simp [Admits, issues, resolve, scalarIssues, wrongType, IsWordOf]

lemma admits_boolean_iff {v : Value} : Schema.boolean.Admits v ↔ v.IsTruthValue := by
  cases v with
  | bool b => simp [Admits, issues, resolve, scalarIssues, IsTruthValue]
  | _ => simp [Admits, issues, resolve, scalarIssues, wrongType, IsTruthValue]

lemma admits_plainText_iff {v : Value} : (Schema.text {}).Admits v ↔ v.IsText := by
  simp [admits_text_iff, IsText]

lemma admits_pattern_iff {rule : TextRule} {p : Pattern} (hmin : rule.minLength = none)
    (hp : rule.pattern = some p) {v : Value} : (Schema.text rule).Admits v ↔ v.IsTextLike p := by
  simp [admits_text_iff, IsTextLike, hmin, hp]

lemma admits_minLength_one_iff {rule : TextRule} (hmin : rule.minLength = some 1)
    (hp : rule.pattern = none) {v : Value} : (Schema.text rule).Admits v ↔ v.IsNonEmptyText := by
  rw [admits_text_iff, IsNonEmptyText]
  refine exists_congr (fun s => and_congr_right (fun _ => ?_))
  simp [hmin, hp, Nat.one_le_iff_ne_zero]

lemma admits_nonEmpty_iff {v : Value} : nonEmpty.Admits v ↔ v.IsNonEmptyText :=
  admits_minLength_one_iff rfl rfl

lemma admits_typeReference_iff {v : Value} :
    typeReference.Admits v ↔ v.IsTextLike .typeReference := by
  simp only [typeReference, admits_text_iff, IsTextLike]
  refine exists_congr (fun s => and_congr_right (fun _ => ?_))
  simp only [Option.some.injEq, forall_eq']
  -- a text that matches is not empty, so the least length says nothing new
  refine ⟨fun h => h.2, fun h => ⟨?_, h⟩⟩
  have hne := h.ne_empty
  simpa [Nat.one_le_iff_ne_zero] using hne

/-! ### Lists -/

lemma admits_list_iff {item : Schema} {v : Value} :
    (Schema.list item).Admits v ↔ v.IsListOf item.AdmitsItem := by
  cases v with
  | list items =>
    rw [Admits, issues, show resolve (.list item) = .list item from rfl]
    simp only [itemIssues_eq_flatMap, List.flatMap_eq_nil_iff, issuesOfItem_eq_nil_iff]
    constructor
    · intro h
      refine ⟨items, rfl, fun x hx => ?_⟩
      obtain ⟨i, hi, rfl⟩ := List.getElem_of_mem hx
      exact h (items[i], i) (by simp [List.mk_mem_zipIdx_iff_getElem?, hi])
    · rintro ⟨_, hitems, h⟩ e he
      cases hitems
      exact h e.1 (List.fst_mem_of_mem_zipIdx he)
  | _ => simp [Admits, issues, resolve, scalarIssues, wrongType, IsListOf]

/-! ### Mappings -/

lemma missingIssues_eq_nil_iff {required : List String} {es : Entries} {place : Location} :
    missingIssues required es place = [] ↔
      ∀ name ∈ required, ∃ x, (Value.map es).field? name = some x := by
  simp [missingIssues, Entries.has, Option.ne_none_iff_exists']

lemma oneEntryIssues_eq_nil_iff {named : List (String × Schema)} {place : Location}
    (hnamed : (named.map Prod.fst).Nodup) {key x : Value} :
    oneEntryIssues named place (key, x) = [] ↔
      ∀ n ∈ named, key = .str n.1 → n.2.Admits x := by
  rw [oneEntryIssues]
  split
  · rename_i name s hfind
    have hmem := List.mem_of_find?_eq_some hfind
    have hkey : key = .str name := by simpa using List.find?_some hfind
    rw [issues_eq_nil_iff]
    constructor
    · intro h n hn hkey'
      have hname : n.1 = name := by
        rw [hkey] at hkey'
        simpa using hkey'.symm
      have hsame : n = (name, s) := List.inj_on_of_nodup_map hnamed hn hmem hname
      rw [hsame]
      exact h
    · intro h
      exact h _ hmem hkey
  · rename_i hfind
    simp only [true_iff]
    intro n hn hkey
    rw [List.find?_eq_none] at hfind
    exact absurd (by simpa using hkey) (hfind n hn)

/-- A mapping is admitted if it has what is required and no entry has an issue. -/
lemma admits_record_map_iff {required : List String} {named : List (String × Schema)}
    {es : Entries} :
    (Schema.record required named).Admits (.map es) ↔
      (∀ name ∈ required, ∃ x, (Value.map es).field? name = some x) ∧
        ∀ e ∈ es, oneEntryIssues named [] e = [] := by
  rw [Admits, issues, show resolve (.record required named) = .record required named from rfl]
  simp only [List.append_eq_nil_iff, missingIssues_eq_nil_iff, entryIssues_eq_flatMap,
    List.flatMap_eq_nil_iff]

/-- What stands under a name with a schema in an admitted mapping is admitted by that schema. -/
lemma allows_of_admits_record {required : List String} {named : List (String × Schema)}
    (hnamed : (named.map Prod.fst).Nodup) {v : Value}
    (h : (Schema.record required named).Admits v) : ∀ n ∈ named, v.Allows n.1 n.2.Admits := by
  intro n hn x hx
  obtain ⟨es, rfl⟩ := exists_map_of_field? hx
  have hentry := (admits_record_map_iff.mp h).2 _ (Entries.mem_of_get? hx)
  exact (oneEntryIssues_eq_nil_iff hnamed).mp hentry n hn rfl

lemma exists_of_admits_record {required : List String} {named : List (String × Schema)} {v : Value}
    (h : (Schema.record required named).Admits v) :
    (∃ es, v = .map es) ∧ ∀ name ∈ required, ∃ x, v.field? name = some x := by
  cases v with
  | map es => exact ⟨⟨es, rfl⟩, (admits_record_map_iff.mp h).1⟩
  | _ => simp [Admits, issues, resolve, scalarIssues, wrongType] at h

/-- A mapping is admitted if it has what is required and all that has a schema is admitted. -/
lemma admits_record_iff {required : List String} {named : List (String × Schema)}
    (hnamed : (named.map Prod.fst).Nodup) {v : Value} (hv : v.IsJson) :
    (Schema.record required named).Admits v ↔
      (∃ es, v = .map es) ∧ (∀ name ∈ required, ∃ x, v.field? name = some x) ∧
        ∀ n ∈ named, v.Allows n.1 n.2.Admits := by
  constructor
  · intro h
    obtain ⟨hmap, hrequired⟩ := exists_of_admits_record h
    exact ⟨hmap, hrequired, allows_of_admits_record hnamed h⟩
  · rintro ⟨⟨es, rfl⟩, hrequired, h⟩
    refine admits_record_map_iff.mpr ⟨hrequired, fun e he => ?_⟩
    obtain ⟨key, x⟩ := e
    refine (oneEntryIssues_eq_nil_iff hnamed).mpr (fun n hn hkey => h n hn x ?_)
    rw [hkey] at he
    exact hv.mem_iff_field?.mp he

lemma admits_contractType_iff {v : Value} :
    Schema.contractType.Admits v ↔ typeRecord.Admits v := by
  cases v <;> rfl

/-! ### Variants -/

lemma admitsItem_variant_iff {options : List (String × Schema)} {v : Value} :
    (Schema.variant options).AdmitsItem v ↔ ∃ s, select options v [] = .ok s ∧ s.Admits v := by
  rw [AdmitsItem, issuesOfItem]
  cases select options v [] with
  | ok s => simp [issues_eq_nil_iff]
  | error issue => simp

/-- An item selects the option that its tag names. -/
lemma select_eq_ok_iff {options : List (String × Schema)} {v : Value} {place : Location}
    {s : Schema} :
    select options v place = .ok s ↔
      ∃ tag name, v.field? discriminator = some tag ∧
        options.find? (fun o => tag.isStr o.1) = some (name, s) := by
  cases v with
  | map es =>
    rw [field?_map]
    cases htag : Entries.get? es discriminator with
    | none => simp [select, htag]
    | some tag =>
      cases hoption : options.find? (fun o => tag.isStr o.1) with
      | none => simp [select, htag, hoption]
      | some o =>
        obtain ⟨name, t⟩ := o
        simp [select, htag, hoption]
  | _ => simp [select, field?]

/-- An item without a tag selects no option. -/
lemma select_of_untagged {options : List (String × Schema)} {v : Value}
    (h : v.field? discriminator = none) (place : Location) :
    select options v place = .error ⟨place, .noVariant⟩ := by
  cases v with
  | map es =>
    rw [field?_map] at h
    simp only [select, h]
  | _ => rfl

/-- The issue of an item against which all options are tried: none, if one of them admits it. -/
def issuesOfTrial (options : List (String × Schema)) (place : Location) (v : Value) : List Issue :=
  if options.any (fun o => (issues o.2 place v).isEmpty) then [] else [⟨place, .noVariant⟩]

/-- A member without a tag needs no trial: every kind of member requires the tag, so the trial would
fail for all of them. -/
theorem issuesOfItem_member_of_untagged {v : Value} (h : v.field? discriminator = none)
    (place : Location) :
    issuesOfItem member place v =
      issuesOfTrial (MemberKind.all.map (fun k => (k.word, memberOf k))) place v := by
  have hnone : ∀ kind, ¬ (memberOf kind).Admits v := by
    intro kind hadmits
    obtain ⟨tag, htag⟩ := (exists_of_admits_record hadmits).2 discriminator (by simp)
    cases h.symm.trans htag
  have htrial : ((MemberKind.all.map (fun k => (k.word, memberOf k))).any
      (fun o => (issues o.2 place v).isEmpty)) = false := by
    simpa [issues_eq_nil_iff] using fun kind _ => hnone kind
  rw [issuesOfTrial, htrial, member, issuesOfItem, select_of_untagged h]
  rfl

end Schema

end DataContract
