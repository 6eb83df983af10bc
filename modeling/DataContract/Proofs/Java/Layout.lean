/-
How the types of a file lie in its text.

Each type that a file renders has a site in its text: a head on a line of its
own, which opens a brace, what lies within, and the end that closes the brace.
The types are rendered one after another and in each other, so their sites follow
the render order, and the depth of the braces before a head is the level of its
type.  All of this holds if what is copied into the file is balanced.
-/
import DataContract.Proofs.Failure
import DataContract.Proofs.Java.Balance
import DataContract.Proofs.Java.Writing

namespace DataContract.Java

open DataContract.Text (Balanced braceDepth)

/-! ### Sites -/

/-- A text in five parts: what comes before a type, the line of its head, what lies between its
braces, its end, and what comes after it. -/
structure Site where
  before : String
  head : String
  inner : String
  closing : String
  after : String

/-- A site in a text is that of a type at a level. -/
structure Site.IsOf (excluded : String → Bool) (text : String) (p : Nat × ContractType) (s : Site) :
    Prop where
  whole : s.before ++ s.head ++ s.inner ++ s.closing ++ s.after = text
  /-- The head starts a line, at a depth that is the level. -/
  start : EndsLine s.before
  depth : braceDepth s.before.toList = p.1
  head : s.head = (headOf (p.1 != 0) p.2.decl).line (indentAt p.1)
  /-- The end closes the brace that the head opens. -/
  balanced : Balanced s.inner
  closing : s.closing = (if s.inner = "" then "" else indentAt p.1) ++ closeBrace ++ "\n"
  /-- The end stands right after the head exactly if nothing is rendered between them. -/
  empty_iff : s.inner = "" ↔ Bare excluded p.2
  /-- Otherwise it stands on a line of its own. -/
  ownLine : s.inner ≠ "" → EndsLine s.inner

/-- The sites of types in a text between two others, in the order of the text. -/
structure LaidOut (excluded : String → Bool) (levels : List (Nat × ContractType))
    (before text after : String) (sites : List Site) : Prop where
  isOf : List.Forall₂ (Site.IsOf excluded (before ++ text ++ after)) levels sites
  within : ∀ s ∈ sites,
    before.length ≤ s.before.length ∧ s.before.length < (before ++ text).length
  ordered : sites.Pairwise (fun a b => a.before.length < b.before.length)

namespace LaidOut

variable {excluded : String → Bool} {before text after : String}

lemma nil : LaidOut excluded [] before text after [] :=
  ⟨.nil, by simp, .nil⟩

/-- The sites of one text after those of another. -/
lemma append {levels levels' : List (Nat × ContractType)} {text' : String}
    {sites sites' : List Site} (h : LaidOut excluded levels before text (text' ++ after) sites)
    (h' : LaidOut excluded levels' (before ++ text) text' after sites') :
    LaidOut excluded (levels ++ levels') before (text ++ text') after (sites ++ sites') := by
  have hwhole : before ++ text ++ (text' ++ after) = before ++ (text ++ text') ++ after := by
    simp only [String.append_assoc]
  have hwhole' : before ++ text ++ text' ++ after = before ++ (text ++ text') ++ after := by
    simp only [String.append_assoc]
  refine ⟨?_, fun s hs => ?_, ?_⟩
  · exact List.rel_append (hwhole ▸ h.isOf) (hwhole' ▸ h'.isOf)
  · rw [String.length_append, String.length_append]
    rcases List.mem_append.mp hs with hs | hs
    · have := h.within s hs
      simp only [String.length_append] at this
      omega
    · have := h'.within s hs
      simp only [String.length_append] at this
      omega
  · refine List.pairwise_append.mpr ⟨h.ordered, h'.ordered, fun a ha b hb => ?_⟩
    exact (h.within a ha).2.trans_le (h'.within b hb).1

/-- The sites of a part of a text are sites of the whole text. -/
lemma of_part {levels : List (Nat × ContractType)} {left part right : String}
    {sites : List Site} (h : LaidOut excluded levels (before ++ left) part (right ++ after) sites) :
    LaidOut excluded levels before (left ++ part ++ right) after sites := by
  have hleft : LaidOut excluded [] before left (part ++ right ++ after) [] := nil
  have hright : LaidOut excluded [] (before ++ left ++ part) right after [] := nil
  have hpart := h.append hright
  rw [List.append_nil, List.append_nil] at hpart
  simpa [String.append_assoc] using hleft.append hpart

/-- The site of a type before those of the types in it. -/
lemma cons {p : Nat × ContractType} {levels : List (Nat × ContractType)} {s : Site}
    {sites : List Site} (hs : s.IsOf excluded (before ++ text ++ after) p)
    (hwithin : before.length ≤ s.before.length ∧ s.before.length < (before ++ text).length)
    (h : LaidOut excluded levels before text after sites)
    (hfirst : ∀ a ∈ sites, s.before.length < a.before.length) :
    LaidOut excluded (p :: levels) before text after (s :: sites) := by
  refine ⟨.cons hs h.isOf, ?_, List.pairwise_cons.mpr ⟨hfirst, h.ordered⟩⟩
  exact List.forall_mem_cons.mpr ⟨hwithin, h.within⟩

end LaidOut

namespace Dialect

variable {x : Dialect} {docs : Javadoc} {excluded : String → Bool}

/-- The site of a type in a text that has the type after a given start. -/
def siteOf (docs : Javadoc) (indent : String) (t : TypeDeclaration) (before after : String) :
    Site where
  before := before ++ docs.block indent t.head.documentation
  head := t.head.line indent
  inner := t.inner docs indent
  closing := closing indent t.isBare
  after := after

lemma siteOf_isOf {k : Nat} {u : ContractType} {t : TypeDeclaration}
    (h : (x.type excluded (k != 0) u).outcome = .ok t)
    (hu : x.CopiesBalanced docs (renderLevels excluded k u)) {before : String}
    (hstart : EndsLine before) (hdepth : braceDepth before.toList = k) (after : String) :
    (siteOf docs (indentAt k) t before after).IsOf excluded
      (before ++ t.text docs (indentAt k) ++ after) (k, u) := by
  obtain ⟨d, ns⟩ := u
  have hhead := head_of_type h
  have hdoc : Balanced (docs.block (indentAt k) t.head.documentation) := by
    rw [hhead]
    exact (balanced_headOf _ (balanced_indentAt k) hu.of_mk).1
  have hbare : t.inner docs (indentAt k) = "" ↔ t.isBare = true := by
    rcases t.inner_cases docs (indentAt k) with ⟨hb, hi⟩ | ⟨hb, hi⟩
    · exact iff_of_true hi hb
    · exact iff_of_false hi.ne_empty (by simp [hb])
  refine ⟨?_, ?_, ?_, ?_, (type_balanced h hu).1, ?_, hbare.trans (isBare_iff h), fun hne => ?_⟩
  · simp only [siteOf, TypeDeclaration.text_eq, String.append_assoc]
  · rw [siteOf]
    obtain hempty | hline := docs.block_cases (indentAt k) t.head.documentation
    · rw [hempty, String.append_empty]
      exact hstart
    · exact hline.append before
  · rw [siteOf, String.toList_append, Text.braceDepth_append, hdoc.total, hdepth, Int.add_zero]
  · rw [siteOf, hhead, ContractType.decl]
  · simp only [siteOf, Java.closing, line, hbare]
  · rcases t.inner_cases docs (indentAt k) with ⟨-, hi⟩ | ⟨-, hi⟩
    · exact absurd hi hne
    · exact hi

/-- The sites of the types nested in a class, if each of them has its sites wherever it stands. -/
lemma nestedText_laidOut {k : Nat} {ns : List ContractType} {ts : List TypeDeclaration}
    (h : List.Forall₂ (fun n t => (x.type excluded true n).outcome = .ok t) ns ts)
    (hns : ∀ n ∈ ns, x.CopiesBalanced docs (renderLevels excluded k n))
    (hsites : ∀ n ∈ ns, ∀ t, (x.type excluded true n).outcome = .ok t →
      ∀ before after, EndsLine before → braceDepth before.toList = k →
        ∃ sites, LaidOut excluded (renderLevels excluded k n) before (t.text docs (indentAt k))
          after sites)
    {before : String} (hdepth : braceDepth before.toList = k) (after : String) :
    ∃ sites, LaidOut excluded (ns.flatMap (renderLevels excluded k)) before
      (TypeDeclaration.nestedText docs (indentAt k) ts) after sites := by
  induction h generalizing before with
  | nil => exact ⟨[], .nil⟩
  | @cons n t rest ts hn _ ih =>
    rw [List.forall_mem_cons] at hns hsites
    have hbreak : Balanced "\n" := .plain rfl
    -- the type stands after a line break, and what is nested later stands after both
    have hdepthBreak : braceDepth (before ++ "\n").toList = k := by
      rw [String.toList_append, Text.braceDepth_append, hbreak.total, hdepth, Int.add_zero]
    have hdepthRest : braceDepth (before ++ ("\n" ++ t.text docs (indentAt k))).toList = k := by
      rw [← String.append_assoc, String.toList_append, Text.braceDepth_append, hdepthBreak,
        (type_balanced hn hns.1).2.total, Int.add_zero]
    obtain ⟨sites, hlaid⟩ := hsites.1 t hn (before ++ "\n")
      (TypeDeclaration.nestedText docs (indentAt k) ts ++ after) ⟨before, rfl⟩ hdepthBreak
    obtain ⟨sites', hlaid'⟩ := ih hns.2 hsites.2 hdepthRest
    rw [TypeDeclaration.nestedText, List.flatMap_cons]
    exact ⟨_, (LaidOut.append .nil hlaid).append hlaid'⟩

/-- The sites of a type and of the types in it, wherever it stands. -/
lemma type_laidOut {k : Nat} {u : ContractType} {t : TypeDeclaration}
    (h : (x.type excluded (k != 0) u).outcome = .ok t)
    (hu : x.CopiesBalanced docs (renderLevels excluded k u)) {before : String}
    (hstart : EndsLine before) (hdepth : braceDepth before.toList = k) (after : String) :
    ∃ sites, LaidOut excluded (renderLevels excluded k u) before (t.text docs (indentAt k))
      after sites := by
  induction u using ContractType.nestedInduction generalizing k t before after with
  | mk d ns ih =>
    have hown := siteOf_isOf h hu hstart hdepth after
    have htext := t.text_eq docs (indentAt k)
    have hwithin : before.length ≤ (before ++ docs.block (indentAt k) t.head.documentation).length ∧
        (before ++ docs.block (indentAt k) t.head.documentation).length <
          (before ++ t.text docs (indentAt k)).length := by
      have hclosing : 0 < (closing (indentAt k) t.isBare).length := by
        rw [closing, line, String.length_append]
        exact Nat.add_pos_right _ (by decide)
      rw [htext]
      simp only [String.length_append]
      omega
    rw [renderLevels]
    cases hd : d.isEnum with
    | true => exact ⟨_, .cons hown hwithin .nil (by simp)⟩
    | false =>
      obtain ⟨members, types, hm, ht, rfl⟩ := type_of_class hd h
      obtain ⟨hdoc, hopening⟩ := balanced_headOf (k != 0) (balanced_indentAt k) hu.of_mk
      -- the nested types stand after the head, which opens a brace, and after the members
      generalize hleft : docs.block (indentAt k) (headOf (k != 0) d).documentation
        ++ (headOf (k != 0) d).line (indentAt k)
        ++ String.join (members.map (ClassMember.text docs (indentAt (k + 1)))) = left
      have hinner : braceDepth (before ++ left).toList = (k + 1 : Nat) := by
        rw [← hleft]
        simp only [String.toList_append, Text.braceDepth_append, hdepth, hdoc.total,
          TypeHead.braceDepth_line hopening, (hu.membersText hd hm).total]
        omega
      obtain ⟨sites, hlaid⟩ := nestedText_laidOut (types_eq_ok ht) (hu.of_nested hd)
        (fun n hn t hdraft before after hstart hdepth =>
          ih n (List.mem_of_mem_filter hn) (k := k + 1) hdraft (hu.of_nested hd n hn) hstart hdepth
            after)
        hinner (closing (indentAt k) (members.isEmpty && types.isEmpty) ++ after)
      have hparts : TypeDeclaration.text docs (indentAt k)
          (.classType (headOf (k != 0) d) members types) =
          left ++ TypeDeclaration.nestedText docs (indentAt (k + 1)) types
            ++ closing (indentAt k) (members.isEmpty && types.isEmpty) := by
        rw [htext, ← hleft]
        simp only [TypeDeclaration.head, TypeDeclaration.inner, TypeDeclaration.isBare, indentAt,
          String.append_assoc]
      have hrest := hlaid.of_part
      rw [← hparts] at hrest
      rw [if_neg Bool.false_ne_true, renderLevelsAll_eq]
      refine ⟨_, .cons hown hwithin hrest (fun a ha => ?_)⟩
      have hopen : 0 < openBrace.length := by decide
      have hafter := (hlaid.within a ha).1
      rw [← hleft] at hafter
      simp only [siteOf, TypeDeclaration.head, TypeHead.line, String.length_append] at hafter ⊢
      omega

end Dialect

/-! ### Files -/

namespace Writer

variable {w : Writer} {config : Config} {excluded : String → Bool} {t : ContractType}

/-- The fragments that are copied into the file of a type. -/
def copied (w : Writer) (config : Config) (excluded : String → Bool) (t : ContractType) :
    List String :=
  (config.licenseHeader.filter Value.isPresent).map Value.text
    ++ [pathFrom (directoryOf (outputPath config t.name)) (sourceOf t.decl), w.package]
    ++ w.importedNames t.name (w.toDialect.type excluded false t).imports
    ++ (renderLevels excluded 0 t).flatMap (fun p =>
      w.declarationFragments w.docs (indentAt p.1) p.2.decl)

lemma balanced_licenseLine {v : Value} (h : v.isPresent = true → Balanced v.text) :
    Balanced (licenseLine v) := by
  rw [licenseLine]
  split
  case isTrue hpresent => exact Balanced.append (.plain rfl) (h hpresent)
  case isFalse => exact .plain rfl

lemma balanced_header {source path : String}
    (hlicense : ∀ v ∈ config.licenseHeader, v.isPresent = true → Balanced v.text)
    (hsource : Balanced (pathFrom (directoryOf path) source)) (hpackage : Balanced w.package) :
    Balanced (String.join ((w.header config source path).map (· ++ "\n"))) := by
  refine .join (fun s hs => ?_)
  obtain ⟨l, hl, rfl⟩ := List.mem_map.mp hs
  refine Balanced.append ?_ (.plain rfl)
  rw [header, List.mem_append] at hl
  rcases hl with hl | hl
  · obtain ⟨v, hv, rfl⟩ := List.mem_map.mp hl
    exact balanced_licenseLine (hlicense v hv)
  · have hpath : Balanced ("// Generated from " ++ pathFrom (directoryOf path) source) :=
      Balanced.append (.plain rfl) hsource
    have hline : Balanced ("package " ++ w.package ++ ";") :=
      (Balanced.append (.plain rfl) hpackage).append (.plain rfl)
    simp only [List.mem_cons, List.not_mem_nil, or_false] at hl
    obtain rfl | rfl | rfl | rfl := hl
    · exact hpath
    · exact .plain rfl
    · exact hline
    · exact .plain rfl

lemma balanced_importSection {names : List String} (h : ∀ n ∈ names, Balanced n) :
    Balanced (importSection names) := by
  rw [importSection]
  split
  · exact .plain rfl
  · refine Balanced.append (.join (fun s hs => ?_)) (.plain rfl)
    obtain ⟨n, hn, rfl⟩ := List.mem_map.mp hs
    exact (Balanced.append (.plain rfl) (h n hn)).append (.plain rfl)

/-- The type of a file starts a line. -/
lemma endsLine_header (source path : String) (names : List String) :
    EndsLine
      (String.join ((w.header config source path).map (· ++ "\n")) ++ importSection names) := by
  rw [importSection]
  split
  · rw [String.append_empty]
    refine endsLine_join (by simp [header]) (fun s hs => ?_)
    obtain ⟨l, -, rfl⟩ := List.mem_map.mp hs
    exact ⟨l, rfl⟩
  · exact ⟨_, String.append_assoc.symm⟩

/-- **A file is balanced if what is copied into it is, and its types lie at their levels.**  Each
type that the file renders has a site of its own in the text, in render order.  Its head starts at a
depth that is the level of the type.  It is closed right after its head exactly if none of its
members and of the types in it is rendered, and otherwise on a line of its own, at its indent. -/
theorem emit_text_balanced {file : GeneratedFile}
    (h : (w.emit config excluded t).outcome = .ok file)
    (hcopied : ∀ s ∈ w.copied config excluded t, Balanced s) :
    Balanced file.text ∧ (renderLevels excluded 0 t).map Prod.snd = renderOrder excluded t ∧
      ∃ sites : List Site,
        List.Forall₂ (Site.IsOf excluded file.text) (renderLevels excluded 0 t) sites ∧
        sites.Pairwise (fun a b => a.before.length < b.before.length) := by
  obtain ⟨-, type, htype, rfl⟩ := emit_eq_ok_iff.mp h
  simp only [copied, List.forall_mem_append, List.forall_mem_flatMap, List.forall_mem_cons,
    List.forall_mem_map, List.mem_filter] at hcopied
  obtain ⟨⟨⟨hlicense, hsource, hpackage, -⟩, himports⟩, hlevels⟩ := hcopied
  have hlevels : w.CopiesBalanced w.docs (renderLevels excluded 0 t) := hlevels
  rw [text_assemble]
  have hbefore := (balanced_header (fun v hv hpresent => hlicense v ⟨hv, hpresent⟩) hsource
    hpackage).append (balanced_importSection himports)
  refine ⟨hbefore.append (Dialect.type_balanced htype hlevels).2, map_snd_renderLevels 0 t, ?_⟩
  obtain ⟨sites, hlaid⟩ := Dialect.type_laidOut htype hlevels
    (endsLine_header (w := w) _ _ _) hbefore.total ""
  have hsites := hlaid.isOf
  rw [String.append_empty] at hsites
  exact ⟨sites, hsites, hlaid.ordered⟩

/-- An enumeration. -/
def layoutProtocol : ContractType :=
  .mk ⟨"Protocol", .enum, none, false, none, "", [
    .enumValue ⟨⟨"Tcp", .publicAccess, false, none⟩⟩]⟩ []

/-- A class with nothing but a constructor without parameters and a class that is excluded. -/
def layoutLink : ContractType :=
  .mk ⟨"Link", .plainClass, some "Port", false, none, "", [
      .constructor
        ⟨⟨"Link", .publicAccess, false, some "<summary>Not written: \x7d</summary>"⟩, []⟩]⟩
    [.mk ⟨"Hidden", .plainClass, none, false, none, "", []⟩ []]

/-- A class with braces in its documentation and in an initializer, and with both of them nested. -/
def layoutExample : ContractType :=
  .mk ⟨"Port", .plainClass, none, false,
      some "<summary>A <see cref=\"T:Tunnels.Link\"/>.</summary>", "src/Port.cs", [
      .property ⟨⟨"Names", .publicAccess, false, none⟩, ⟨"string", false, true⟩,
        some "\x7b get; \x7d = new string[] \x7b \x7d;"⟩,
      .method ⟨⟨"Parse", .publicAccess, true, none⟩, ⟨"Tunnels.Port", false, false⟩,
        [⟨"Text", ⟨"string", false, false⟩⟩], .ordinary⟩]⟩
    [layoutProtocol, layoutLink]

theorem emit_text_balanced_layoutExample :
    ∃ (file : GeneratedFile) (a b c : Site),
      ((standard "Tunnels" .default).emit .default (· == "Hidden") layoutExample).outcome
        = .ok file ∧
      Balanced file.text ∧
      a.IsOf (· == "Hidden") file.text (0, layoutExample) ∧ a.inner ≠ "" ∧
      b.IsOf (· == "Hidden") file.text (1, layoutProtocol) ∧ b.inner ≠ "" ∧
      c.IsOf (· == "Hidden") file.text (1, layoutLink) ∧ c.inner = "" ∧
      a.before.length < b.before.length ∧ b.before.length < c.before.length := by
  have hok : ((standard "Tunnels" .default).emit .default (· == "Hidden")
      layoutExample).outcome.isOk = true := by
    decide +kernel
  obtain ⟨file, hfile⟩ := Succeeds.of_isOk hok
  have hcopied : ∀ s ∈ (standard "Tunnels" .default).copied .default (· == "Hidden") layoutExample,
      Balanced s := by
    decide +kernel
  obtain ⟨hbalanced, -, sites, hsites, hordered⟩ := emit_text_balanced hfile hcopied
  have hlevels : renderLevels (· == "Hidden") 0 layoutExample =
      [(0, layoutExample), (1, layoutProtocol), (1, layoutLink)] := by
    rfl
  rw [hlevels] at hsites
  obtain ⟨a, _, ha, hnested, rfl⟩ := List.forall₂_cons_left_iff.mp hsites
  obtain ⟨b, _, hb, hlast, rfl⟩ := List.forall₂_cons_left_iff.mp hnested
  obtain ⟨c, _, hc, -, rfl⟩ := List.forall₂_cons_left_iff.mp hlast
  simp only [List.pairwise_cons, List.forall_mem_cons] at hordered
  exact ⟨file, a, b, c, hfile, hbalanced, ha, ha.empty_iff.not.mpr (by decide), hb,
    hb.empty_iff.not.mpr (by decide), hc, hc.empty_iff.mpr (by decide), hordered.1.1,
    hordered.2.1.1⟩

end Writer

end DataContract.Java
