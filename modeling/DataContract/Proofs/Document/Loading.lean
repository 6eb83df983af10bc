/-
When loading a model crashes.

Loading a model ends with the model, with a report of what is wrong with the
file, or with a crash.  The last is not meant to happen for any file, but it
does: for a path that no disk can be asked for, for bytes that are no text, for
the faults of a document other than its form, for values that lie too deep in
each other, and for numbers that are too long to be quoted.  Here it is shown
that there are no other causes, whatever reads the texts that are not JSON and
whatever the limit of the depth is.  In particular, nothing that the schema lets
through makes a reader of a single part fail.
-/
import DataContract.Document.Source
import DataContract.Proofs.Json.Reader
import DataContract.Proofs.Model.Acceptance

namespace DataContract

/-! ### Reading the file -/

/-- A part of a path holds the character that ends paths. -/
def Path.HoldsNul (p : Path) : Prop :=
  ∃ part ∈ p.parts, Char.ofNat 0 ∈ part.toList

/-- A part of a path holds a character that no path can. -/
def Path.LacksEncoding (p : Path) : Prop :=
  ∃ part ∈ p.parts, ∃ c ∈ part.toList, Text.isPathChar c = false

namespace Disk

variable {d : Disk} {p : Path}

/-- On the way through a disk nothing fails for the characters of a path. -/
lemma resolve_error {place parts : List String} {e : DiskError}
    (h : d.resolve place parts = .error e) : e ≠ .nulInPath ∧ e ≠ .unencodable := by
  induction parts generalizing place with
  | nil => cases h
  | cons part rest ih =>
    rw [resolve] at h
    split at h
    · split at h
      · cases h
        exact ⟨nofun, nofun⟩
      · exact ih h
    · cases h
      exact ⟨nofun, nofun⟩
    · cases h
      exact ⟨nofun, nofun⟩

/-- A path is refused for its characters exactly if it holds one that paths cannot hold. -/
lemma locate_eq_unencodable_iff : d.locate p = .error .unencodable ↔ p.LacksEncoding := by
  have hany : p.parts.any (fun part => part.toList.any (fun c => !Text.isPathChar c)) = true ↔
      p.LacksEncoding := by
    simp [Path.LacksEncoding]
  rw [locate]
  split
  · rename_i hlacks
    exact iff_of_true rfl (hany.mp hlacks)
  · rename_i hlacks
    refine iff_of_false (fun h => ?_) (fun h => hlacks (hany.mpr h))
    split at h
    · cases h
    · split at h
      · cases h
      · exact (resolve_error h).2 rfl

lemma locate_eq_nulInPath_iff :
    d.locate p = .error .nulInPath ↔ p.HoldsNul ∧ ¬ p.LacksEncoding := by
  have hany : p.parts.any (fun part => part.toList.contains (Char.ofNat 0)) = true ↔
      p.HoldsNul := by
    simp [Path.HoldsNul]
  by_cases hlacks : p.LacksEncoding
  · rw [locate_eq_unencodable_iff.mpr hlacks]
    exact iff_of_false nofun (fun h => h.2 hlacks)
  · have hencodable : p.parts.any (fun part => part.toList.any (fun c => !Text.isPathChar c)) =
        false := by
      simpa [Path.LacksEncoding] using hlacks
    rw [locate, hencodable, if_neg Bool.false_ne_true, and_iff_left hlacks, ← hany]
    split
    · rename_i hnul
      exact iff_of_true rfl hnul
    · rename_i hnul
      refine iff_of_false (fun h => ?_) hnul
      split at h
      · cases h
      · exact (resolve_error h).1 rfl

lemma read_eq_error_iff_locate {e : DiskError} (he : e = .nulInPath ∨ e = .unencodable) :
    d.read p = .error e ↔ d.locate p = .error e := by
  rw [read, bind_eq_error_iff, or_iff_left]
  rintro ⟨place, -, h⟩
  rcases he with rfl | rfl <;> split at h <;> cases h

end Disk

lemma decodeText_eq_error_iff {content : ByteArray} {c : Crash} :
    decodeText content = .error c ↔ c = .undecodable ∧ ¬ content.IsValidUTF8 := by
  rw [decodeText, String.fromUTF8?]
  by_cases hvalid : content.IsValidUTF8
  · simp [hvalid]
  · simp [hvalid, eq_comm]

/-! ### Values along a schema -/

namespace Linked

/-- A reading fails only for a collection that contains itself. -/
def FailsAsRecursive {α : Type} (x : Reading α) : Prop :=
  ∀ settled fault, x settled = .error fault → fault = .recursive

namespace FailsAsRecursive

variable {α β : Type}

lemma pure (a : α) : FailsAsRecursive (pure a : Reading α) := by
  intro settled fault h
  cases h

lemma alone (unfold : StateM Settled α) : FailsAsRecursive (Linked.alone unfold) := by
  intro settled fault h
  cases h

lemma bind {x : Reading α} {f : α → Reading β} (hx : FailsAsRecursive x)
    (hf : ∀ a, FailsAsRecursive (f a)) : FailsAsRecursive (x >>= f) := by
  intro settled fault h
  rcases bind_eq_error_iff.mp h with h | ⟨⟨a, settled'⟩, -, h⟩
  · exact hx settled fault h
  · exact hf a settled' fault h

lemma mapM {f : α → Reading β} {l : List α} (h : ∀ a ∈ l, FailsAsRecursive (f a)) :
    FailsAsRecursive (l.mapM f) := by
  induction l with
  | nil => exact pure []
  | cons a rest ih =>
    rw [List.forall_mem_cons] at h
    rw [List.mapM_cons]
    exact h.1.bind (fun b => (ih h.2).bind (fun bs => pure (b :: bs)))

end FailsAsRecursive

lemma follow_failsAsRecursive (d : Linked) (fuel : Nat) (s : Schema) (id : ObjectId) :
    FailsAsRecursive (d.follow fuel s id) := by
  induction fuel generalizing s id with
  | zero =>
    -- Running out of steps is the only way to fail.
    intro settled fault h
    cases h
    rfl
  | succ fuel ih =>
    rw [follow]
    split
    · exact (FailsAsRecursive.mapM (fun a _ => ih _ a)).bind (fun vs => .pure _)
    · exact (FailsAsRecursive.mapM (fun a _ => .alone _)).bind (fun vs => .pure _)
    · refine (FailsAsRecursive.mapM ?_).bind (fun vs => .pure _)
      rintro ⟨key, item⟩ -
      dsimp only
      split
      · exact (ih _ _).bind (fun v => .pure _)
      · exact (FailsAsRecursive.alone _).bind (fun v => .pure _)
    · exact .alone _

lemma eq_recursive_of_along {d : Linked} {s : Schema} {fault : Fault}
    (h : d.along s = .error fault) : fault = .recursive := by
  rw [along, StateT.run'] at h
  cases hfollow : d.follow (2 * d.depthBound + 6) s d.root d.unsettled with
  | error fault' =>
    rw [hfollow] at h
    cases h
    exact follow_failsAsRecursive d _ s _ _ _ hfollow
  | ok hit =>
    rw [hfollow] at h
    cases h

/-- A document of one value is that value along any schema. -/
lemma along_ofValue (v : Value) (s : Schema) : (ofValue v).along s = .ok v := by
  have hfollow : (ofValue v).follow 10 s 0 = alone ((ofValue v).valueOf 0) := by
    rw [follow]
    cases s.resolve <;> rfl
  have hbound : 2 * (ofValue v).depthBound + 6 = 10 := rfl
  rw [along, hbound, show (ofValue v).root = 0 from rfl, hfollow]
  rfl

end Linked

namespace Model

/-! ### The version -/

lemma versionText?_eq (v : Value) :
    versionText? v = none ∨ versionText? v =
      some (if v.hasText then .ok (.str v.text) else .error (.document .tooManyDigits)) := by
  cases v <;> first | exact .inl rfl | exact .inr rfl

lemma eq_of_versionText? {v : Value} {c : Crash} (h : versionText? v = some (.error c)) :
    c = .document .tooManyDigits ∧ v.hasText = false := by
  rcases versionText?_eq v with hnone | hsome
  · cases hnone.symm.trans h
  · rw [hsome] at h
    cases htext : v.hasText <;> rw [htext] at h <;> cases h
    exact ⟨rfl, rfl⟩

lemma isJson_of_versionText? {v x : Value} (h : versionText? v = some (.ok x)) : x.IsJson := by
  rcases versionText?_eq v with hnone | hsome
  · cases hnone.symm.trans h
  · rw [hsome] at h
    cases htext : v.hasText <;> rw [htext] at h <;> cases h
    exact .str _

lemma eq_tooManyDigits_of_versionAsText {d : Linked} {c : Crash}
    (h : versionAsText d = .error c) : c = .document .tooManyDigits := by
  unfold versionAsText at h
  split at h
  · rename_i entries _
    split at h
    · cases h
    · rename_i version hversion
      rcases bind_eq_error_iff.mp h with h | ⟨v, -, h⟩
      · obtain ⟨v, -, hv⟩ := Option.bind_eq_some_iff.mp hversion
        exact (eq_of_versionText? (h ▸ hv)).1
      · cases h
  · split at h
    · cases h
    · split at h
      · split at h
        · cases h
        · rename_i version hversion
          rcases bind_eq_error_iff.mp h with h | ⟨v, -, h⟩
          · exact (eq_of_versionText? (h ▸ hversion)).1
          · cases h
      · cases h
  · cases h

/-- In a JSON value the version is made a text without a crash. -/
lemma versionAsText_ofValue {v : Value} (hv : v.IsJson) :
    ∃ v', v'.IsJson ∧ versionAsText (.ofValue v) = .ok (.ofValue v') := by
  have hobject : (Linked.ofValue v).object (Linked.ofValue v).root = .plain v := rfl
  cases v with
  | map es =>
    rw [versionAsText, hobject]
    dsimp only
    cases hversion : (Entries.get? es "ir_version").bind versionText? with
    | none => exact ⟨.map es, hv, rfl⟩
    | some version =>
      obtain ⟨x, hx, htext⟩ := Option.bind_eq_some_iff.mp hversion
      cases version with
      | error c =>
        -- No number in a JSON value is too long to be written.
        obtain ⟨-, htextless⟩ := eq_of_versionText? htext
        exact absurd ((hv.of_field? hx).hasText) (by simp [htextless])
      | ok x =>
        exact ⟨_, Entries.isJson_insert hv "ir_version" (isJson_of_versionText? htext), rfl⟩
  | _ =>
    rw [versionAsText, hobject]
    exact ⟨_, hv, rfl⟩

/-! ### The document -/

/-- Why the document of a text makes loading crash. -/
inductive DocumentCrash (limit : Nat) : Except Fault Linked → Fault → Prop
  /-- The text has a fault other than its form. -/
  | fault {f : Fault} (hf : f ≠ .malformed) : DocumentCrash limit (.error f) f
  /-- The version is a number that is too long to be written. -/
  | version {d : Linked} (h : versionAsText d = .error (.document .tooManyDigits)) :
      DocumentCrash limit (.ok d) .tooManyDigits
  /-- A type lies in itself. -/
  | recursive {d d' : Linked} (hd : versionAsText d = .ok d')
      (h : d'.along Schema.document = .error .recursive) : DocumentCrash limit (.ok d) .recursive
  /-- Types, or the values of a constant, lie deeper in each other than the limit. -/
  | tooDeep {d d' : Linked} {es : Entries} (hd : versionAsText d = .ok d')
      (hes : d'.along Schema.document = .ok (.map es)) (h : isTooDeep limit es = true) :
      DocumentCrash limit (.ok d) .tooDeep
  /-- A number is too long to be quoted. -/
  | lacksText {d d' : Linked} {es : Entries} (hd : versionAsText d = .ok d')
      (hes : d'.along Schema.document = .ok (.map es)) (h : LacksText (.map es)) :
      DocumentCrash limit (.ok d) .tooManyDigits

/-- Why the document of a JSON text makes loading crash: one of the two faults of the reader that
are not about its form, or the depth of its values. -/
inductive JsonCrash (limit : Nat) (text : String) : Fault → Prop
  | fault {f : Fault} (h : Json.parse text = .error f) (hf : f = .tooManyDigits ∨ f = .tooDeep) :
      JsonCrash limit text f
  | tooDeep {v : Value} {es : Entries} (h : Json.parse text = .ok v)
      (hversion : versionAsText (.ofValue v) = .ok (.ofValue (.map es)))
      (hdeep : isTooDeep limit es = true) : JsonCrash limit text .tooDeep

lemma documentCrash_json_iff {limit : Nat} {text : String} {f : Fault} :
    DocumentCrash limit ((Json.parse text).map .ofValue) f ↔ JsonCrash limit text f := by
  have hyields := Json.parse_yields text
  cases hparse : Json.parse text with
  | error f' =>
    rw [hparse] at hyields
    constructor
    · intro h
      cases h with
      | fault hf => exact .fault hparse (hyields.resolve_left hf)
    · intro h
      cases h with
      | fault heq hf =>
        cases hparse.symm.trans heq
        refine .fault ?_
        rcases hf with rfl | rfl <;> decide
      | tooDeep heq => cases hparse.symm.trans heq
  | ok v =>
    rw [hparse] at hyields
    obtain ⟨v', hv', hversion⟩ := versionAsText_ofValue hyields
    have halong := Linked.along_ofValue v' Schema.document
    constructor
    · intro h
      cases h with
      | version h => cases hversion.symm.trans h
      | recursive hd h =>
        cases hversion.symm.trans hd
        cases halong.symm.trans h
      | tooDeep hd hes h =>
        cases hversion.symm.trans hd
        cases halong.symm.trans hes
        exact .tooDeep hparse hversion h
      | lacksText hd hes h =>
        cases hversion.symm.trans hd
        cases halong.symm.trans hes
        exact absurd h (not_lacksText_of_isJson hv')
    · intro h
      cases h with
      | fault heq => cases hparse.symm.trans heq
      | tooDeep heq hversion hdeep =>
        cases hparse.symm.trans heq
        exact .tooDeep hversion (Linked.along_ofValue _ _) hdeep

/-! ### Loading -/

/-- The entries of a document that was read from a text. -/
def entriesOfDocument (p : Path) (document : Except Fault Linked) : Attempt ModelError Entries := do
  let d ← onMalformed (.invalid p.text) document
  let d ← (versionAsText d).mapError .crash
  match (← onMalformed (.invalid p.text) (d.along Schema.document)) with
  | .map entries => return entries
  | _ => .error (.reported (.notAMapping p.text))

/-- The model in a document that was read from a text. -/
def modelOfDocument (limit : Nat) (p : Path) (document : Except Fault Linked) :
    Attempt ModelError Model := do
  ofEntriesWithin limit (← entriesOfDocument p document)

variable {limit : Nat} {p : Path}

lemma modelOfDocument_of_fault {f : Fault} (hf : f ≠ .malformed) :
    modelOfDocument limit p (.error f) = .error (.crash (.document f)) := by
  cases f <;> first | rfl | exact absurd rfl hf

lemma modelOfDocument_of_version_error {d : Linked} {c : Crash}
    (h : versionAsText d = .error c) : modelOfDocument limit p (.ok d) = .error (.crash c) := by
  change ((versionAsText d).mapError Failure.crash >>= _) >>= _ = _
  rw [mapError_bind_of_error h]
  rfl

lemma modelOfDocument_of_version {d d' : Linked} (h : versionAsText d = .ok d') :
    modelOfDocument limit p (.ok d) =
      match d'.along Schema.document with
      | .error f => modelOfDocument limit p (.error f)
      | .ok (.map es) => ofEntriesWithin limit es
      | .ok _ => .error (.reported (.notAMapping p.text)) := by
  have hentries : entriesOfDocument p (.ok d) =
      onMalformed (.invalid p.text) (d'.along Schema.document) >>= fun v =>
        match v with
        | .map es => pure es
        | _ => .error (.reported (.notAMapping p.text)) := by
    change ((versionAsText d).mapError Failure.crash >>= _) = _
    rw [mapError_bind_of_ok h]
  rw [modelOfDocument, hentries]
  cases d'.along Schema.document with
  | error f => cases f <;> rfl
  | ok v => cases v <;> rfl

lemma modelOfDocument_of_along {d d' : Linked} {es : Entries} (h : versionAsText d = .ok d')
    (hes : d'.along Schema.document = .ok (.map es)) :
    modelOfDocument limit p (.ok d) = ofEntriesWithin limit es := by
  rw [modelOfDocument_of_version h, hes]

/-- What comes after the text of a file crashes only for the causes of its document. -/
lemma documentCrash_of_modelOfDocument {document : Except Fault Linked} {c : Crash}
    (h : modelOfDocument limit p document = .error (.crash c)) :
    ∃ fault, c = .document fault ∧ DocumentCrash limit document fault := by
  -- The steps in the order in which they are taken; each one crashes for one cause.
  cases document with
  | error f =>
    by_cases hf : f = .malformed
    · rw [hf] at h
      cases h
    · rw [modelOfDocument_of_fault hf] at h
      cases h
      exact ⟨f, rfl, .fault hf⟩
  | ok d =>
    cases hversion : versionAsText d with
    | error c' =>
      have hdigits := eq_tooManyDigits_of_versionAsText hversion
      rw [modelOfDocument_of_version_error hversion] at h
      cases h
      rw [hdigits] at hversion ⊢
      exact ⟨_, rfl, .version hversion⟩
    | ok d' =>
      cases halong : d'.along Schema.document with
      | error f =>
        have hrecursive := Linked.eq_recursive_of_along halong
        rw [hrecursive] at halong
        rw [modelOfDocument_of_version hversion, halong] at h
        cases h
        exact ⟨_, rfl, .recursive hversion halong⟩
      | ok v =>
        cases v with
        | map es =>
          rw [modelOfDocument_of_along hversion halong, ofEntriesWithin] at h
          split at h
          · rename_i hdeep
            cases h
            exact ⟨_, rfl, .tooDeep hversion halong hdeep⟩
          · obtain ⟨rfl, hlacks⟩ := ofValue_eq_crash_iff.mp h
            exact ⟨_, rfl, .lacksText hversion halong hlacks⟩
        | _ =>
          rw [modelOfDocument_of_version hversion, halong] at h
          cases h

/-- Every cause makes it crash; of two causes it may be the other one that does. -/
lemma exists_crash_of_documentCrash {document : Except Fault Linked} {fault : Fault}
    (h : DocumentCrash limit document fault) :
    ∃ c, modelOfDocument limit p document = .error (.crash c) := by
  cases h with
  | fault hf => exact ⟨_, modelOfDocument_of_fault hf⟩
  | version h => exact ⟨_, modelOfDocument_of_version_error h⟩
  | recursive hd h =>
    rw [modelOfDocument_of_version hd, h]
    exact ⟨_, rfl⟩
  | tooDeep hd hes h =>
    rw [modelOfDocument_of_along hd hes, ofEntriesWithin, if_pos h]
    exact ⟨_, rfl⟩
  | lacksText hd hes h =>
    rw [modelOfDocument_of_along hd hes, ofEntriesWithin]
    split
    · exact ⟨_, rfl⟩
    · exact ⟨_, ofValue_eq_crash_iff.mpr ⟨rfl, h⟩⟩

section Load

variable {readYaml : TextReader} {disk : Disk} {path : String}

lemma loadWith_of_content {content : ByteArray}
    (h : disk.read (Path.parse path) = .ok content) :
    loadWith readYaml limit disk path = (decodeText content).mapError .crash >>= fun text =>
      modelOfDocument limit (Path.parse path) (parseDocument readYaml (Path.parse path) text) := by
  have hentries : readDocumentWith readYaml disk path =
      (decodeText content).mapError .crash >>= fun text =>
        entriesOfDocument (Path.parse path) (parseDocument readYaml (Path.parse path) text) := by
    rw [readDocumentWith, contentOf, h]
    rfl
  rw [loadWith, hentries, bind_assoc]
  rfl

lemma loadWith_of_unread {e : DiskError} (h : disk.read (Path.parse path) = .error e) :
    loadWith readYaml limit disk path =
      .error (if e = .nulInPath ∨ e = .unencodable then .crash (.disk e)
        else .reported (.unreadable (Path.parse path).text)) := by
  rw [loadWith, readDocumentWith, contentOf, h]
  cases e <;> rfl

/-- Why loading a file crashes: the path, the bytes of the file, or its document. -/
inductive LoadCrash (readYaml : TextReader) (limit : Nat) (disk : Disk) (path : String) :
    Crash → Prop
  /-- The path holds a null character. -/
  | nul (h : (Path.parse path).HoldsNul) : LoadCrash readYaml limit disk path (.disk .nulInPath)
  /-- The path holds half a pair of units. -/
  | half (h : (Path.parse path).LacksEncoding) :
      LoadCrash readYaml limit disk path (.disk .unencodable)
  /-- The bytes of the file are no text. -/
  | bytes {content : ByteArray} (hread : disk.read (Path.parse path) = .ok content)
      (h : ¬ content.IsValidUTF8) : LoadCrash readYaml limit disk path .undecodable
  /-- The text of the file makes its document crash. -/
  | document {content : ByteArray} {text : String} {f : Fault}
      (hread : disk.read (Path.parse path) = .ok content) (htext : decodeText content = .ok text)
      (h : DocumentCrash limit (parseDocument readYaml (Path.parse path) text) f) :
      LoadCrash readYaml limit disk path (.document f)

/-- Loading crashes only for these causes. -/
lemma loadCrash_of_loadWith {c : Crash}
    (h : loadWith readYaml limit disk path = .error (.crash c)) :
    LoadCrash readYaml limit disk path c := by
  cases hread : disk.read (Path.parse path) with
  | ok content =>
    rw [loadWith_of_content hread] at h
    cases htext : decodeText content with
    | error c' =>
      obtain ⟨rfl, hinvalid⟩ := decodeText_eq_error_iff.mp htext
      rw [mapError_bind_of_error htext] at h
      cases h
      exact .bytes hread hinvalid
    | ok text =>
      rw [mapError_bind_of_ok htext] at h
      obtain ⟨f, rfl, hdocument⟩ := documentCrash_of_modelOfDocument h
      exact .document hread htext hdocument
  | error e =>
    rw [loadWith_of_unread hread] at h
    by_cases he : e = .nulInPath ∨ e = .unencodable
    · rw [if_pos he] at h
      cases h
      rw [Disk.read_eq_error_iff_locate he] at hread
      rcases he with rfl | rfl
      · exact .nul (Disk.locate_eq_nulInPath_iff.mp hread).1
      · exact .half (Disk.locate_eq_unencodable_iff.mp hread)
    · rw [if_neg he] at h
      cases h

/-- Every one of these causes makes loading crash. -/
lemma exists_crash_of_loadCrash {c : Crash} (h : LoadCrash readYaml limit disk path c) :
    ∃ c', loadWith readYaml limit disk path = .error (.crash c') := by
  have hunread : ∀ {e : DiskError}, (e = .nulInPath ∨ e = .unencodable) →
      disk.locate (Path.parse path) = .error e →
      ∃ c', loadWith readYaml limit disk path = .error (.crash c') := by
    intro e he hlocate
    have hread := (Disk.read_eq_error_iff_locate he).mpr hlocate
    exact ⟨.disk e, by rw [loadWith_of_unread hread, if_pos he]⟩
  cases h with
  | nul hnul =>
    -- a path can be refused for its other characters before this one counts
    by_cases hlacks : (Path.parse path).LacksEncoding
    · exact hunread (.inr rfl) (Disk.locate_eq_unencodable_iff.mpr hlacks)
    · exact hunread (.inl rfl) (Disk.locate_eq_nulInPath_iff.mpr ⟨hnul, hlacks⟩)
  | half hlacks => exact hunread (.inr rfl) (Disk.locate_eq_unencodable_iff.mpr hlacks)
  | bytes hread hinvalid =>
    rw [loadWith_of_content hread,
      mapError_bind_of_error (decodeText_eq_error_iff.mpr ⟨rfl, hinvalid⟩)]
    exact ⟨_, rfl⟩
  | document hread htext hdocument =>
    rw [loadWith_of_content hread, mapError_bind_of_ok htext]
    exact exists_crash_of_documentCrash hdocument

/-- The causes of a JSON file, one by one. -/
lemma loadCrash_json_iff {c : Crash} (hjson : (Path.parse path).suffix = ".json") :
    LoadCrash readYaml limit disk path c ↔
      (c = .disk .nulInPath ∧ (Path.parse path).HoldsNul) ∨
        (c = .disk .unencodable ∧ (Path.parse path).LacksEncoding) ∨
        ∃ content, disk.read (Path.parse path) = .ok content ∧
          ((c = .undecodable ∧ ¬ content.IsValidUTF8) ∨
            ∃ text f, decodeText content = .ok text ∧ c = .document f ∧
              JsonCrash limit text f) := by
  have hdocument : ∀ text f,
      DocumentCrash limit (parseDocument readYaml (Path.parse path) text) f ↔
        JsonCrash limit text f := by
    intro text f
    rw [parseDocument, if_pos (beq_iff_eq.mpr hjson), documentCrash_json_iff]
  constructor
  · intro h
    cases h with
    | nul hnul => exact .inl ⟨rfl, hnul⟩
    | half hlacks => exact .inr (.inl ⟨rfl, hlacks⟩)
    | bytes hread hinvalid => exact .inr (.inr ⟨_, hread, .inl ⟨rfl, hinvalid⟩⟩)
    | document hread htext h =>
      exact .inr (.inr ⟨_, hread, .inr ⟨_, _, htext, rfl, (hdocument _ _).mp h⟩⟩)
  · rintro (⟨rfl, hnul⟩ | ⟨rfl, hlacks⟩ |
      ⟨content, hread, ⟨rfl, hinvalid⟩ | ⟨text, f, htext, rfl, hcrash⟩⟩)
    · exact .nul hnul
    · exact .half hlacks
    · exact .bytes hread hinvalid
    · exact .document hread htext ((hdocument text f).mpr hcrash)

end Load

/-- **Loading a model crashes exactly for these causes.**  A crash has one of them, and each of them
makes loading crash, whatever reads the texts that are not JSON and wherever the limit of the depth
lies.  For a JSON file they are the path, the bytes of the file, a number with too many digits and
the depth of the values. -/
theorem load_crash_iff_loadCrash (readYaml : TextReader) (limit : Nat) (disk : Disk)
    (path : String) :
    (∀ c, loadWith readYaml limit disk path = .error (.crash c) →
      LoadCrash readYaml limit disk path c) ∧
    ((∃ c, loadWith readYaml limit disk path = .error (.crash c)) ↔
      ∃ c, LoadCrash readYaml limit disk path c) ∧
    ((Path.parse path).suffix = ".json" → ∀ c,
      (LoadCrash readYaml limit disk path c ↔
        (c = .disk .nulInPath ∧ (Path.parse path).HoldsNul) ∨
          (c = .disk .unencodable ∧ (Path.parse path).LacksEncoding) ∨
          ∃ content, disk.read (Path.parse path) = .ok content ∧
            ((c = .undecodable ∧ ¬ content.IsValidUTF8) ∨
              ∃ text f, decodeText content = .ok text ∧ c = .document f ∧
                JsonCrash limit text f))) := by
  refine ⟨fun c h => loadCrash_of_loadWith h, ?_, fun hjson c => loadCrash_json_iff hjson⟩
  constructor
  · rintro ⟨c, h⟩
    exact ⟨c, loadCrash_of_loadWith h⟩
  · rintro ⟨c, h⟩
    exact exists_crash_of_loadCrash h

/-- A byte that starts no character. -/
lemma not_isValidUTF8_ff : ¬ (ByteArray.mk #[0xff]).IsValidUTF8 := by
  decide

/-- A disk with one file. -/
def diskWith (name : String) (content : ByteArray) : Disk :=
  ⟨[([name], .file content)]⟩

theorem load_crash_json_undecodable :
    ∃ c, load (diskWith "m.json" ⟨#[0xff]⟩) "m.json" = .error (.crash c) := by
  have hread : (diskWith "m.json" ⟨#[0xff]⟩).read (Path.parse "m.json") = .ok ⟨#[0xff]⟩ := by rfl
  obtain ⟨-, hcrash, hjson⟩ := load_crash_iff_loadCrash Yaml.parse maxNesting
    (diskWith "m.json" ⟨#[0xff]⟩) "m.json"
  exact hcrash.mpr ⟨.undecodable,
    (hjson (by decide) _).mpr (.inr (.inr ⟨_, hread, .inl ⟨rfl, not_isValidUTF8_ff⟩⟩))⟩

theorem not_forall_load_ne_crash :
    ¬ ∀ (disk : Disk) (path : String) (c : Crash), load disk path ≠ .error (.crash c) := by
  intro h
  have hread : (diskWith "m.yaml" ⟨#[0xff]⟩).read (Path.parse "m.yaml") = .ok ⟨#[0xff]⟩ := by rfl
  have hcause : LoadCrash Yaml.parse maxNesting (diskWith "m.yaml" ⟨#[0xff]⟩) "m.yaml"
      .undecodable := .bytes hread not_isValidUTF8_ff
  obtain ⟨c, hc⟩ := exists_crash_of_loadCrash hcause
  exact h _ _ c hc

end Model

end DataContract
