import Mathlib.Data.List.Forall2
import ModalDrill.Proofs.Manifest.Layout
import ModalDrill.Proofs.Text.Stripping

namespace ModalDrill
namespace Manifest

/-!
# The version of the innermost manifest

The version is the one of the first version line in a project table, of the innermost
manifest that has such a line.  All that is asked of the other lines and manifests is
that they have none.  So nothing in front of the tables or in other tables matters, nor
where these stand, and manifests without a version are passed over as absent ones are.
-/

/-! ## Version lines -/

/-- The word, a sign and a version in quotes, with something between them. -/
def assignment (gap gap' version : List Char) : List Char :=
  "version".toList ++ (gap ++ '=' :: (gap' ++ '"' :: (version ++ ['"'])))

/-- A line that names a version.  The version is not empty and has no quote in it, and only
blanks are between the parts of the line and around them. -/
structure VersionLine (line version : List Char) : Prop where
  filled : version ≠ []
  unquoted : forall c, c ∈ version -> c ≠ '"'
  spelled : Exists fun front => Exists fun gap => Exists fun gap' => Exists fun back =>
    line = front ++ assignment gap gap' version ++ back ∧
      forall c, c ∈ front ++ gap ++ gap' ++ back -> Text.isBlank c = true

theorem behind?_eq_some_iff {start line rest : List Char} :
    behind? start line = some rest ↔ line = start ++ rest := by
  unfold behind?
  constructor
  · intro cut
    split at cut
    · next front =>
        rcases List.isPrefixOf_iff_prefix.mp front with ⟨rest', rfl⟩
        rw [List.drop_left, Option.some.injEq] at cut
        rw [cut]
    · cases cut
  · rintro rfl
    rw [if_pos (List.isPrefixOf_iff_prefix.mpr (List.prefix_append start rest)), List.drop_left]

/-- The text between the quotes, if the second one ends the line. -/
theorem quoted_eq_some_iff {text version : List Char} :
    (if (text.takeWhile (· != '"')).isEmpty || text.dropWhile (· != '"') != ['"'] then none
      else some (text.takeWhile (· != '"'))) = some version ↔
      text = version ++ ['"'] ∧ version ≠ [] ∧ forall c, c ∈ version -> c ≠ '"' := by
  constructor
  · intro found
    split at found
    · cases found
    · next sound =>
        rw [Option.some.injEq] at found
        rw [Bool.or_eq_true, not_or, List.isEmpty_iff, bne_iff_ne, not_not, found] at sound
        have whole := List.takeWhile_append_dropWhile (p := (· != '"')) (l := text)
        rw [found, sound.2] at whole
        refine ⟨whole.symm, sound.1, fun c listed => ?_⟩
        rw [← found] at listed
        exact bne_iff_ne.mp (List.mem_takeWhile_imp (p := (· != '"')) listed)
  · rintro ⟨rfl, filled, unquoted⟩
    have whole : forall c, c ∈ version -> (c != '"') = true :=
      fun c listed => bne_iff_ne.mpr (unquoted c listed)
    have front : (version ++ ['"']).takeWhile (· != '"') = version := by
      rw [List.takeWhile_append_of_pos whole, List.takeWhile_cons_of_neg (by decide), List.append_nil]
    have back : (version ++ ['"']).dropWhile (· != '"') = ['"'] := by
      rw [List.dropWhile_append_of_pos whole, List.dropWhile_cons_of_neg (by decide)]
    rw [front, back, if_neg]
    rw [Bool.or_eq_true, not_or, List.isEmpty_iff, bne_self_eq_false]
    exact ⟨filled, Bool.false_ne_true⟩

theorem versionOf?_eq_some_iff {line version : List Char} :
    versionOf? line = some version ↔
      Exists fun behindName => Exists fun behindSign => line = "version".toList ++ behindName ∧
        Text.trimStart behindName = '=' :: behindSign ∧
        Text.trimStart behindSign = '"' :: (version ++ ['"']) ∧
        version ≠ [] ∧ forall c, c ∈ version -> c ≠ '"' := by
  unfold versionOf?
  simp only [Option.bind_eq_bind, Option.bind_eq_some_iff, behind?_eq_some_iff, quoted_eq_some_iff]
  constructor
  · rintro ⟨behindName, named, behindSign, signed, quotedPart, quoted, rfl, filled, unquoted⟩
    exact ⟨behindName, behindSign, named, signed, quoted, filled, unquoted⟩
  · rintro ⟨behindName, behindSign, named, signed, quoted, filled, unquoted⟩
    exact ⟨behindName, named, behindSign, signed, _, quoted, rfl, filled, unquoted⟩

/-- An assignment starts with a letter and ends in a quote. -/
theorem trim_assignment (gap gap' version : List Char) :
    Text.trim (assignment gap gap' version) = assignment gap gap' version := by
  have letters : "version".toList = 'v' :: "ersion".toList := by decide +kernel
  unfold assignment
  rw [letters]
  generalize "ersion".toList = letters
  have letter : Text.isBlank 'v' = false := by decide
  have quote : Text.isBlank '"' = false := by decide
  have between := Text.trim_between letter quote
    (letters ++ (gap ++ '=' :: (gap' ++ '"' :: version)))
  simpa only [List.cons_append, List.append_assoc] using between

/-- What is read off a stripped line is what the line names. -/
theorem versionOf?_trim_iff {line version : List Char} :
    versionOf? (Text.trim line) = some version ↔ VersionLine line version := by
  rw [versionOf?_eq_some_iff]
  constructor
  · rintro ⟨behindName, behindSign, named, signed, quoted, filled, unquoted⟩
    rcases Text.exists_blanks_trim line with ⟨front, back, blankFront, blankBack, whole⟩
    rcases Text.exists_blanks_trimStart behindName with ⟨gap, blankGap, afterName⟩
    rcases Text.exists_blanks_trimStart behindSign with ⟨gap', blankGap', afterSign⟩
    rw [quoted] at afterSign
    rw [signed, afterSign] at afterName
    rw [named, afterName] at whole
    refine ⟨filled, unquoted, front, gap, gap', back, whole, ?_⟩
    simp only [List.forall_mem_append]
    exact ⟨⟨⟨blankFront, blankGap⟩, blankGap'⟩, blankBack⟩
  · rintro ⟨filled, unquoted, front, gap, gap', back, rfl, blank⟩
    simp only [List.forall_mem_append] at blank
    rcases blank with ⟨⟨⟨blankFront, blankGap⟩, blankGap'⟩, blankBack⟩
    rw [Text.trim_append_of_blank blankFront blankBack, trim_assignment]
    refine ⟨_, gap' ++ '"' :: (version ++ ['"']), rfl, ?_, ?_, filled, unquoted⟩
    · rw [Text.trimStart_append_of_blank blankGap]
      exact Text.trimStart_cons_of_solid (by decide) _
    · rw [Text.trimStart_append_of_blank blankGap']
      exact Text.trimStart_cons_of_solid (by decide) _

theorem versionOf?_trim_eq_none_iff {line : List Char} :
    versionOf? (Text.trim line) = none ↔ forall version, ¬ VersionLine line version := by
  rw [Option.eq_none_iff_forall_ne_some]
  exact forall_congr' fun version => not_congr versionOf?_trim_iff

/-! ## One manifest -/

namespace Layout

/-- No line in a project table names a version. -/
def Versionless (layout : Layout) : Prop :=
  forall line, line ∈ layout.projectLines -> forall version, ¬ VersionLine line version

/-- The first version line in the project tables names a version. -/
def Names (layout : Layout) (version : List Char) : Prop :=
  Exists fun before => Exists fun line => Exists fun after =>
    layout.projectLines = before ++ line :: after ∧ VersionLine line version ∧
      forall other, other ∈ before -> forall version', ¬ VersionLine other version'

theorem version?_eq_none_iff {layout : Layout} : layout.version? = none ↔ layout.Versionless := by
  rw [version?, List.findSome?_eq_none_iff]
  exact forall₂_congr fun line _ => versionOf?_trim_eq_none_iff

theorem version?_eq_some_iff {layout : Layout} {version : List Char} :
    layout.version? = some version ↔ layout.Names version := by
  rw [version?, List.findSome?_eq_some_iff, Names]
  refine exists₃_congr fun before line after => and_congr_right fun _ => and_congr versionOf?_trim_iff ?_
  exact forall₂_congr fun other _ => versionOf?_trim_eq_none_iff

/-- Layouts with the same project tables name the same versions. -/
theorem version?_eq_of_projectTables_eq {layout layout' : Layout}
    (same : layout.projectTables = layout'.projectTables) : layout.version? = layout'.version? := by
  rw [version?, version?, projectLines, projectLines, same]

end Layout

/-! ## Manifests from the inside out -/

/-- The manifests of the folders from the innermost one outward, with their texts.  A
folder may have none. -/
def Manifests (files : List (Option Layout)) (texts : List (Option String)) : Prop :=
  List.Forall₂ (Option.Rel Layout.Writes) files texts

/-- The innermost manifest that has a version names it. -/
inductive FirstNames : List (Option Layout) -> List Char -> Prop
  | intro {inner outer : List (Option Layout)} {layout : Layout} {version : List Char}
      (skipped : forall other, some other ∈ inner -> other.Versionless)
      (names : layout.Names version) : FirstNames (inner ++ some layout :: outer) version

/-- The version of the innermost layout that names one. -/
def firstVersion? (files : List (Option Layout)) : Option (List Char) :=
  files.findSome? fun file => file.bind Layout.version?

theorem Manifests.innermostVersion?_eq {files : List (Option Layout)} {texts : List (Option String)}
    (manifests : Manifests files texts) :
    innermostVersion? texts = (firstVersion? files).map String.ofList := by
  unfold innermostVersion? firstVersion?
  induction manifests with
  | nil => rfl
  | @cons file text files texts here _ inductionHypothesis =>
      rw [List.findSome?_cons, List.findSome?_cons, inductionHypothesis]
      cases here with
      | none => rfl
      | @some layout text writes =>
          rw [Option.bind_some, Option.bind_some, writes.version?_eq]
          cases layout.version? <;> rfl

theorem firstVersion?_eq_none_iff {files : List (Option Layout)} :
    firstVersion? files = none ↔ forall layout, some layout ∈ files -> layout.Versionless := by
  rw [firstVersion?, List.findSome?_eq_none_iff]
  constructor
  · intro nothing layout listed
    exact Layout.version?_eq_none_iff.mp (nothing (some layout) listed)
  · rintro versionless (none | layout) listed
    · rfl
    · exact Layout.version?_eq_none_iff.mpr (versionless layout listed)

theorem firstVersion?_eq_some_iff {files : List (Option Layout)} {version : List Char} :
    firstVersion? files = some version ↔ FirstNames files version := by
  rw [firstVersion?, List.findSome?_eq_some_iff]
  constructor
  · rintro ⟨inner, file, outer, rfl, found, skipped⟩
    rcases Option.bind_eq_some_iff.mp found with ⟨layout, rfl, named⟩
    refine .intro (fun other listed => ?_) (Layout.version?_eq_some_iff.mp named)
    exact Layout.version?_eq_none_iff.mp (skipped (some other) listed)
  · rintro ⟨skipped, names⟩
    refine ⟨_, _, _, rfl, Layout.version?_eq_some_iff.mpr names, ?_⟩
    rintro (none | other) listed
    · rfl
    · exact Layout.version?_eq_none_iff.mpr (skipped other listed)

theorem firstVersion?_congr {files files' : List (Option Layout)}
    (same : List.Forall₂ (Option.Rel fun layout layout' =>
      layout.projectTables = layout'.projectTables) files files') :
    firstVersion? files' = firstVersion? files := by
  unfold firstVersion?
  induction same with
  | nil => rfl
  | @cons file file' files files' here _ inductionHypothesis =>
      rw [List.findSome?_cons, List.findSome?_cons, inductionHypothesis]
      cases here with
      | none => rfl
      | some tables =>
          rw [Option.bind_some, Option.bind_some, Layout.version?_eq_of_projectTables_eq tables]

theorem Manifests.innermostVersion?_eq_some_iff {files : List (Option Layout)}
    {texts : List (Option String)} (manifests : Manifests files texts) (version : String) :
    innermostVersion? texts = some version ↔ FirstNames files version.toList := by
  rw [manifests.innermostVersion?_eq, ← firstVersion?_eq_some_iff, Option.map_eq_some_iff]
  constructor
  · rintro ⟨letters, found, rfl⟩
    rw [String.toList_ofList]
    exact found
  · exact fun found => ⟨_, found, String.ofList_toList⟩

theorem Manifests.innermostVersion?_eq_none_iff {files : List (Option Layout)}
    {texts : List (Option String)} (manifests : Manifests files texts) :
    innermostVersion? texts = none ↔
      forall layout, some layout ∈ files -> layout.Versionless := by
  rw [manifests.innermostVersion?_eq, Option.map_eq_none_iff, firstVersion?_eq_none_iff]

theorem innermostVersion?_append (inner outer : List (Option String)) :
    innermostVersion? (inner ++ outer) = (innermostVersion? inner).or (innermostVersion? outer) :=
  List.findSome?_append

/-! ## The version of a program -/

/-- How the manifests of a program tell its version. -/
structure VersionTold (files : List (Option Layout)) (texts : List (Option String)) : Prop where
  /-- It is the one that the innermost manifest names that names any. -/
  some_iff : forall version, innermostVersion? texts = some version ↔
    FirstNames files version.toList
  /-- Only without a version line in any project table there is none. -/
  none_iff : innermostVersion? texts = none ↔
    forall layout, some layout ∈ files -> layout.Versionless
  /-- Other manifests with the same project tables, in the same order, tell the same. -/
  others_ignored : forall files' texts', Manifests files' texts' ->
    List.Forall₂ (Option.Rel fun layout layout' => layout.projectTables = layout'.projectTables)
      files files' ->
    innermostVersion? texts' = innermostVersion? texts
  /-- Folders in between that have no manifest, or one without a version, change nothing. -/
  skipped : forall inner outer files' texts', texts = inner ++ outer ->
    Manifests files' texts' -> (forall layout, some layout ∈ files' -> layout.Versionless) ->
    innermostVersion? (inner ++ texts' ++ outer) = innermostVersion? texts
  /-- The version that is told is the version of the program, whatever is installed. -/
  resolved : forall version, FirstNames files version.toList -> forall installed,
    resolve texts installed = version
  /-- If none is told it is the one that is installed, and it is unknown without that. -/
  fallback : (forall layout, some layout ∈ files -> layout.Versionless) -> forall installed,
    resolve texts installed = installed.getD "0+unknown"

/-- The version of a program is looked up in the project tables of its manifests, from the
innermost folder outward, and nowhere else in them. -/
theorem version_told_by_project_tables {files : List (Option Layout)}
    {texts : List (Option String)} (manifests : Manifests files texts) : VersionTold files texts where
  some_iff := manifests.innermostVersion?_eq_some_iff
  none_iff := manifests.innermostVersion?_eq_none_iff
  others_ignored := by
    intro files' texts' manifests' same
    rw [manifests.innermostVersion?_eq, manifests'.innermostVersion?_eq,
      firstVersion?_congr same]
  skipped := by
    intro inner outer files' texts' whole manifests' versionless
    rw [whole, innermostVersion?_append, innermostVersion?_append, innermostVersion?_append,
      manifests'.innermostVersion?_eq_none_iff.mpr versionless, Option.or_none]
  resolved := by
    intro version names installed
    rw [resolve, (manifests.innermostVersion?_eq_some_iff version).mpr names]
    rfl
  fallback := by
    intro versionless installed
    rw [resolve, manifests.innermostVersion?_eq_none_iff.mpr versionless, Option.none_or]
    rfl

/-- The innermost folder has no manifest, and in the next one the versions stand outside the
project table.  The one after that has two project tables, the first one without a version. -/
theorem version_told_by_project_tables_second :
    let tool : Table :=
      ⟨"[tool]".toList, ["version = \"9\"".toList], by decide +kernel, by decide +kernel⟩
    let named : Table := ⟨" [project] ".toList, ["name = \"m\"".toList, "version = \"\"".toList],
      by decide +kernel, by decide +kernel⟩
    let versioned : Table :=
      ⟨"[project]".toList, ["\tversion =\"1.2\" ".toList], by decide +kernel, by decide +kernel⟩
    let inner : Layout := ⟨["version = \"0\"".toList], [tool], by decide +kernel⟩
    let outer : Layout := ⟨[], [named, tool, versioned], by decide +kernel⟩
    let text : String := String.ofList ("version = \"0\"".toList ++ ['\n'] ++
      ("[tool]".toList ++ ['\n'] ++ "version = \"9\"".toList))
    let text' : String := String.ofList (" [project] ".toList ++ ['\r', '\n'] ++
      ("name = \"m\"".toList ++ ['\r', '\n'] ++ ("version = \"\"".toList ++ ['\r', '\n'] ++
        ("[tool]".toList ++ ['\n'] ++ ("version = \"9\"".toList ++ ['\n'] ++
          ("[project]".toList ++ ['\r'] ++ ("\tversion =\"1.2\" ".toList ++ ['\n'] ++ [])))))))
    Manifests [none, some inner, some outer] [none, some text, some text'] ∧
      FirstNames [none, some inner, some outer] "1.2".toList ∧
      innermostVersion? [none, some text, some text'] = some "1.2" ∧
      resolve [none, some text, some text'] (some "0.1") = "1.2" := by
  intro tool named versioned inner outer text text'
  have feed : EndsLine ['\n'] := .single '\n' (by decide)
  have back : EndsLine ['\r'] := .single '\r' (by decide)
  have writes : inner.Writes text := by
    rw [Layout.Writes, String.toList_ofList]
    exact .ended (by decide +kernel) feed (.ended (by decide +kernel) feed (.last (by decide +kernel)))
  have writes' : outer.Writes text' := by
    rw [Layout.Writes, String.toList_ofList]
    exact .ended (by decide +kernel) .pair (.ended (by decide +kernel) .pair
      (.ended (by decide +kernel) .pair (.ended (by decide +kernel) feed
        (.ended (by decide +kernel) feed (.ended (by decide +kernel) back
          (.ended (by decide +kernel) feed .empty))))))
  have manifests : Manifests [none, some inner, some outer] [none, some text, some text'] :=
    .cons .none (.cons (.some writes) (.cons (.some writes') .nil))
  have line : VersionLine "\tversion =\"1.2\" ".toList "1.2".toList :=
    versionOf?_trim_iff.mp (by decide +kernel)
  have unnamed : forall other, other ∈ named.lines -> forall version, ¬ VersionLine other version := by
    intro other listed
    have unread : forall other, other ∈ named.lines -> versionOf? (Text.trim other) = none := by
      decide +kernel
    exact versionOf?_trim_eq_none_iff.mp (unread other listed)
  have lines : outer.projectLines = named.lines ++ "\tversion =\"1.2\" ".toList :: [] := by
    decide +kernel
  have versionless : inner.Versionless := by
    have noLines : inner.projectLines = [] := by decide +kernel
    intro line listed
    rw [noLines] at listed
    cases listed
  have names : FirstNames [none, some inner, some outer] "1.2".toList := by
    change FirstNames ([none, some inner] ++ some outer :: []) _
    refine .intro ?_ ⟨_, _, _, lines, line, unnamed⟩
    intro other listed
    have same : other = inner := by simpa using listed
    exact same ▸ versionless
  have told := version_told_by_project_tables manifests
  exact ⟨manifests, names, (told.some_iff "1.2").mpr names, told.resolved "1.2" names (some "0.1")⟩

end Manifest
end ModalDrill
