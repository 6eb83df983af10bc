/-
What the reader of JSON text gives.

Every text that is read holds a JSON value, and there are three faults for which
a text is not read: its form, a number with too many digits, and values that lie
in each other too deep.
-/
import DataContract.Json.Reader
import DataContract.Proofs.Value.Json
import Mathlib.Algebra.Ring.Nat
import Mathlib.Data.List.Induction
import Mathlib.Data.List.Nodup
import Mathlib.Data.List.TakeWhile

namespace DataContract

/-! ### The entries of an object -/

namespace Value

lemma isJson_map_cons_iff {key x : Value} {rest : Entries} :
    (Value.map ((key, x) :: rest)).IsJson ↔
      (∃ s, key = .str s) ∧ key ∉ rest.map Prod.fst ∧ x.IsJson ∧ (Value.map rest).IsJson := by
  simp only [isJson_map_iff, List.forall_mem_cons, List.map_cons, List.nodup_cons]
  tauto

end Value

namespace Entries

open Value

lemma mem_map_fst_insert {es : Entries} {key k x : Value}
    (h : k ∈ (es.insert key x).map Prod.fst) : k = key ∨ k ∈ es.map Prod.fst := by
  induction es with
  | nil =>
    rw [List.mem_map] at h
    obtain ⟨e, he, rfl⟩ := h
    exact .inl (by rw [List.mem_singleton.mp he])
  | cons e rest ih =>
    obtain ⟨k', y⟩ := e
    rw [insert, putKey] at h
    split at h
    · exact .inr h
    · rw [List.map_cons, List.mem_cons] at h ⊢
      rcases h with h | h
      · exact .inr (.inl h)
      · exact (ih h).imp_right .inr

lemma isJson_insert {es : Entries} (hes : (Value.map es).IsJson) (name : String) {x : Value}
    (hx : x.IsJson) : (Value.map (es.insert (.str name) x)).IsJson := by
  induction es with
  | nil => exact isJson_map_cons_iff.mpr ⟨⟨name, rfl⟩, by simp, hx, hes⟩
  | cons e rest ih =>
    obtain ⟨key, y⟩ := e
    obtain ⟨⟨s, rfl⟩, hkey, hy, hrest⟩ := isJson_map_cons_iff.mp hes
    rw [insert, putKey]
    split
    · exact isJson_map_cons_iff.mpr ⟨⟨s, rfl⟩, hkey, hx, hrest⟩
    · rename_i hsame
      refine isJson_map_cons_iff.mpr ⟨⟨s, rfl⟩, fun hmem => ?_, hy, ih hrest⟩
      rcases mem_map_fst_insert hmem with heq | hmem
      · rw [heq, sameKey] at hsame
        exact hsame (beq_self_eq_true name)
      · exact hkey hmem

lemma isJson_ofPairs {pairs : List (Value × Value)}
    (h : ∀ e ∈ pairs, (∃ s, e.1 = .str s) ∧ e.2.IsJson) : (Value.map (ofPairs pairs)).IsJson := by
  have hfold : ∀ es : Entries, (Value.map es).IsJson →
      (Value.map (pairs.foldl (fun acc e => insert e.1 e.2 acc) es)).IsJson := by
    induction pairs with
    | nil => exact fun es hes => hes
    | cons e rest ih =>
      rw [List.forall_mem_cons] at h
      obtain ⟨⟨⟨s, hs⟩, hx⟩, hrest⟩ := h
      intro es hes
      rw [List.foldl_cons, hs]
      exact ih hrest _ (isJson_insert hes s hx)
  exact hfold [] (by simp)

end Entries

/-! ### The steps of the reader -/

namespace Json

open Value DataContract.Text

/-- The faults of the reader. -/
def IsFault (fault : Fault) : Prop :=
  fault = .malformed ∨ fault = .tooManyDigits ∨ fault = .tooDeep

/-- A step of the reader gives a result of a form or has one of the faults of the reader. -/
def Yields {α : Type} (form : α → Prop) : Except Fault α → Prop
  | .ok a => form a
  | .error fault => IsFault fault

namespace Yields

variable {α β : Type} {form : α → Prop} {form' : β → Prop}

lemma malformed : Yields form (.error .malformed) :=
  .inl rfl

lemma bind {x : Except Fault α} {f : α → Except Fault β} (hx : Yields form x)
    (hf : ∀ a, form a → Yields form' (f a)) : Yields form' (x >>= f) := by
  cases x with
  | ok a => exact hf a hx
  | error fault => exact hx

end Yields

lemma stringBody_yields (s : List Char) : Yields (fun _ => True) (stringBody s) := by
  fun_induction stringBody s
  case case1 => trivial
  case case2 ih | case3 ih | case4 ih | case6 ih | case8 ih | case11 ih =>
    exact ih.bind (fun _ _ => trivial)
  case case5 | case7 | case9 | case10 | case12 => exact Yields.malformed

lemma digitsValue_append (ds : List Char) (c : Char) :
    digitsValue (ds ++ [c]) = digitsValue ds * 10 + (c.toNat - '0'.toNat) := by
  rw [digitsValue, List.foldl_append]
  rfl

lemma digitsValue_lt {ds : List Char} (h : ∀ c ∈ ds, c.isDigit = true) :
    digitsValue ds < 10 ^ ds.length := by
  induction ds using List.reverseRecOn with
  | nil => decide
  | append_singleton ds c ih =>
    rw [List.forall_mem_append, List.forall_mem_singleton] at h
    have hlt := ih h.1
    have hdigit : c.toNat - '0'.toNat ≤ 9 := by
      have hc := h.2
      simp only [Char.isDigit, Bool.and_eq_true, decide_eq_true_eq, UInt32.le_iff_toNat_le] at hc
      have hle : c.toNat ≤ 57 := hc.2
      have hzero : '0'.toNat = 48 := rfl
      omega
    rw [digitsValue_append, List.length_append, List.length_singleton, Nat.pow_succ]
    omega

lemma wholePart_digits {s whole rest : List Char} (h : wholePart s = some (whole, rest)) :
    ∀ c ∈ whole, c.isDigit = true := by
  unfold wholePart at h
  split at h
  · cases h
    exact List.forall_mem_singleton.mpr rfl
  · rw [Option.ite_none_right_eq_some] at h
    cases h.2
    exact fun c hc => List.mem_takeWhile_imp hc
  · cases h

lemma unsignedNumber_yields (negative : Bool) (s : List Char) :
    Yields (fun hit => hit.1.IsJson) (unsignedNumber negative s) := by
  rw [unsignedNumber]
  cases hwhole : wholePart s with
  | none => exact Yields.malformed
  | some hit =>
    obtain ⟨whole, rest⟩ := hit
    have hlt := digitsValue_lt (wholePart_digits hwhole)
    dsimp only
    split
    · split
      · exact .inr (.inl rfl)
      · -- The number has few enough digits to be written again.
        rename_i hlength
        have hpow : 10 ^ whole.length ≤ 10 ^ maxDigits :=
          Nat.pow_le_pow_right (by decide) (Nat.not_lt.mp hlength)
        refine isJson_int_iff.mpr ?_
        rw [isWritable, decide_eq_true_eq]
        cases negative <;> simp <;> omega
    · exact IsJson.float _

lemma isJson_of_constant? {s rest : List Char} {v : Value} (h : constant? s = some (v, rest)) :
    v.IsJson := by
  have hconstants : ∀ c ∈ constants, c.2.IsJson := by simp [constants]
  obtain ⟨c, hc, hdrop⟩ := List.exists_of_findSome?_eq_some h
  obtain ⟨rest', -, heq⟩ := Option.map_eq_some_iff.mp hdrop
  cases heq
  exact hconstants c hc

lemma atom_yields (s : List Char) : Yields (fun hit => hit.1.IsJson) (atom s) := by
  unfold atom
  cases hconstant : constant? s with
  | some hit => exact isJson_of_constant? hconstant
  | none =>
    dsimp only
    split
    · exact unsignedNumber_yields true _
    · exact unsignedNumber_yields false _

/-! ### Values -/

/-- Members of an object: texts as keys, and JSON values. -/
def AreMembers (pairs : List (Value × Value)) : Prop :=
  ∀ e ∈ pairs, (∃ s, e.1 = .str s) ∧ e.2.IsJson

/-- The three parts of the reader, by induction on the number of steps that are left. -/
lemma reader_yields (fuel : Nat) :
    (∀ depth s, Yields (fun hit => hit.1.IsJson) (value fuel depth s)) ∧
      (∀ depth s, Yields (fun hit => ∀ v ∈ hit.1, v.IsJson) (items fuel depth s)) ∧
      ∀ depth s, Yields (fun hit => AreMembers hit.1) (members fuel depth s) := by
  induction fuel with
  | zero =>
    refine ⟨fun depth s => ?_, fun depth s => ?_, fun depth s => ?_⟩
    · rw [value]; exact Yields.malformed
    · rw [items]; exact Yields.malformed
    · rw [members]; exact Yields.malformed
  | succ fuel ih =>
    obtain ⟨hvalue, hitems, hmembers⟩ := ih
    refine ⟨fun depth s => ?_, fun depth s => ?_, fun depth s => ?_⟩
    · cases depth with
      | zero =>
        rw [value]
        exact .inr (.inr rfl)
      | succ depth =>
        unfold value
        split
        · exact (stringBody_yields _).bind (fun hit _ => IsJson.str _)
        · split
          · exact isJson_list_iff.mpr (by simp)
          · exact (hitems depth _).bind (fun hit hhit => isJson_list_iff.mpr hhit)
        · split
          · exact isJson_map_iff.mpr (by simp)
          · exact (hmembers depth _).bind (fun hit hhit => Entries.isJson_ofPairs hhit)
        · exact atom_yields _
    · rw [items]
      refine (hvalue depth s).bind ?_
      rintro ⟨item, rest⟩ hitem
      dsimp only
      split
      · exact List.forall_mem_singleton.mpr hitem
      · exact (hitems depth _).bind (fun more hmore => List.forall_mem_cons.mpr ⟨hitem, hmore⟩)
      · exact Yields.malformed
    · unfold members
      split
      · refine (stringBody_yields _).bind ?_
        rintro ⟨key, rest⟩ -
        dsimp only
        split
        · refine (hvalue depth _).bind ?_
          rintro ⟨item, rest⟩ hitem
          have hpair : (∃ s, Value.str (String.ofList key) = .str s) ∧ item.IsJson :=
            ⟨⟨_, rfl⟩, hitem⟩
          dsimp only
          split
          · exact List.forall_mem_singleton.mpr hpair
          · exact (hmembers depth _).bind
              (fun more hmore => List.forall_mem_cons.mpr ⟨hpair, hmore⟩)
          · exact Yields.malformed
        · exact Yields.malformed
      · exact Yields.malformed

lemma parse_yields (text : String) : Yields IsJson (parse text) := by
  rw [parse]
  refine ((reader_yields _).1 _ _).bind ?_
  rintro ⟨v, rest⟩ hjson
  dsimp only
  split
  · exact hjson
  · exact Yields.malformed

end Json

end DataContract
