/-
The path of the source in the header of a file.

The header of a file names the source that the file was generated from, by a
path from the directory of the file.  If the file lies below the place that both
paths are relative to, then this path leads back to the source, and it is as
short as a normal form makes it: first every `..`, then names.
-/
import DataContract.Java.Writer
import DataContract.Proofs.Path.Normal

namespace DataContract.Java.Writer

lemma sourceOf_of_ne_empty {d : Declaration} (h : d.sourceFile ≠ "") :
    sourceOf d = d.sourceFile := by
  simp [sourceOf, h]

lemma slash_mem_outputPath (config : Config) (name : String) :
    '/' ∈ (outputPath config name).toList := by
  simp [outputPath]

lemma anchorOf_of_isRooted {s : String} (h : isRooted s = false) : Path.anchorOf s = 0 := by
  rw [Path.anchorOf_eq_zero_iff]
  intro hhead
  cases hs : s.toList with
  | nil => simp [hs] at hhead
  | cons c rest =>
    rw [hs, List.head?_cons, Option.some.injEq] at hhead
    simp [isRooted, hs, hhead] at h

/-- **The path in the header of a file leads from the file to its source.**  It is in normal form,
and it is `.` exactly if the source is the directory of the file. -/
theorem header_path_leads_to_source (w : Writer) (config : Config) (d : Declaration)
    (hsource : d.sourceFile ≠ "") (hrooted : isRooted d.sourceFile = false)
    (hrelative : Path.anchorOf (outputPath config d.name) = 0)
    (hclimb : (normalParts (outputPath config d.name)).head? ≠ some "..") :
    ∃ path,
      w.header config (sourceOf d) (outputPath config d.name) =
        config.licenseHeader.map licenseLine ++
          ["// Generated from " ++ path, "", "package " ++ w.package ++ ";", ""] ∧
      Path.normalise (directoryOf (outputPath config d.name) ++ "/" ++ path) =
        Path.normalise d.sourceFile ∧
      Path.normalise path = path ∧ InNormalForm (Path.parse path).parts ∧
      (path = "." ↔
        Path.normalise (directoryOf (outputPath config d.name)) = Path.normalise d.sourceFile) := by
  have hslash := slash_mem_outputPath config d.name
  obtain ⟨last, hpath, -⟩ := exists_eq_directoryOf_append hslash
  -- before the slash of a relative path there is something, which is relative too
  have hanchor := Path.anchorOf_eq_zero_iff.mp hrelative
  have hne : directoryOf (outputPath config d.name) ≠ "" := by
    intro hempty
    rw [hpath, hempty] at hanchor
    simp at hanchor
  have hdirectory : Path.anchorOf (directoryOf (outputPath config d.name)) = 0 := by
    obtain ⟨c, cs, hc⟩ := List.exists_cons_of_ne_nil (mt String.toList_eq_nil_iff.mp hne)
    rw [hpath] at hanchor
    rw [Path.anchorOf_eq_zero_iff]
    simpa [hc] using hanchor
  have hsourceAnchor := anchorOf_of_isRooted hrooted
  have hway := inNormalForm_wayFrom (inNormalForm_normalParts d.sourceFile)
    (normalParts (directoryOf (outputPath config d.name)))
  refine ⟨pathFrom (directoryOf (outputPath config d.name)) d.sourceFile, ?_, ?_, ?_, ?_, ?_⟩
  · rw [header, sourceOf_of_ne_empty hsource]
  · exact Path.normalise_append_pathFrom hne hdirectory
      (head?_normalParts_directoryOf hslash hclimb) hsourceAnchor
  · rw [Path.pathFrom_eq_text, Path.normalise_text hway]
  · rw [Path.pathFrom_eq_text, Path.parse_text hway]
    exact hway
  · rw [Path.pathFrom_eq_text, Path.normalise_of_relative hdirectory,
      Path.normalise_of_relative hsourceAnchor,
      Path.text_inj (inNormalForm_normalParts _) (inNormalForm_normalParts _), ← wayFrom_eq_nil_iff]
    exact Path.text_inj hway (inNormalForm_ups 0)

/-- Settings with a directory that is not written in normal form. -/
def sdkConfig : Config where
  namespaceSetting := .null
  licenseHeader := []
  excluded := []
  package := "com.contoso"
  sourceRoot := "cs//java/../sdk"

/-- A class whose source lies above its file. -/
def tunnelDeclaration : Declaration where
  name := "Tunnel"
  kind := .plainClass
  base := none
  isStatic := false
  documentation := none
  sourceFile := "cs/sdk/./model/../Tunnel.cs"
  members := []

theorem header_path_of_tunnelDeclaration :
    ∃ path,
      (standard "Contoso" sdkConfig).header sdkConfig (sourceOf tunnelDeclaration)
          "cs//java/../sdk/com/contoso/Tunnel.java" =
        ["// Generated from " ++ path, "", "package com.contoso;", ""] ∧
      Path.normalise ("cs//java/../sdk/com/contoso/" ++ path) = "cs/sdk/Tunnel.cs" := by
  have hpath : outputPath sdkConfig tunnelDeclaration.name =
      "cs//java/../sdk/com/contoso/Tunnel.java" := by
    decide
  have hdirectory : directoryOf (outputPath sdkConfig tunnelDeclaration.name) ++ "/" =
      "cs//java/../sdk/com/contoso/" := by
    decide
  obtain ⟨path, hheader, hnormalise, -⟩ := header_path_leads_to_source
    (standard "Contoso" sdkConfig) sdkConfig tunnelDeclaration (by decide) (by decide) (by decide)
    (by decide)
  refine ⟨path, ?_, ?_⟩
  · rw [← hpath, hheader]
    rfl
  · rw [← hdirectory, hnormalise]
    decide

end DataContract.Java.Writer
