import CodeIndex.Disk.Discovery
import CodeIndex.Proofs.Disk.Walks
import CodeIndex.Proofs.Settings.NormalForm

set_option relaxedAutoImplicit false
set_option autoImplicit false

/-!
# Which files are found

A search collects directories until there are no new ones and takes files from each. What it finds
can be said without that: the files to which an admitted walk leads from one of the folders. On an
admitted walk no entry is left out, the folder and the file included, no directory is skipped for
its name, and the file is handled under the name that it is met with and is small enough. Every file
is found once, however many walks lead to it, and neither the order of the folders nor that of the
entries of a directory matters. A search that skips directories skips those as well whose name is
no text, and a file below them is not found though the options allow it.

## Main definitions

* `Discovery.LeftOut` — a place is at or below that of an excluded path.
* `Discovery.Allows` — the options allow a walk from a folder to a file.
* `Discovery.Admits` — a walk from a folder to a file is admitted.
* `Discovery.Exact` — a search finds the files of the admitted walks, each once, in any order.

## Main results

* `Discovery.Query.mem_reachable_iff` — the directories collected are those that walks enter.
* `Discovery.mem_filesBelow_iff` — the files found below one folder.
* `Discovery.exact_discover` — searches are exact.
* `Discovery.not_mem_discover_illegible` — a file that is allowed and not found.

## Implementation notes

The collected directories stand at different places of the disk, so there are not more of them than
entries and the root. As long as new ones are found their number grows, which is why as many rounds
as there are entries are enough.
-/

namespace CodeIndex

namespace Discovery

open Disk (Step walked)

/-! ## Entering directories -/

namespace Query

variable {q : Query} {root directory place : List FileName}

/-- A search enters the directory that a step leads to. -/
def Opens (q : Query) (step : Step) : Prop :=
  isExcluded q.excluded step.place = false ∧ q.disk.isDirectory step.place = true ∧
    (q.skipBuildDirs = true → isSkippedName step.name = false)

/-- A search takes the file that a step leads to. -/
def Takes (q : Query) (step : Step) : Prop :=
  isExcluded q.excluded step.place = false ∧ q.disk.isFile step.place = true ∧
    q.language.handlesExtension (Path.extensionOf? step.name) = true ∧ q.fits step.place = true

lemma admitted?_eq_some_iff {name : FileName} :
    q.admitted? directory name = some place ↔
      q.disk.canonicalIn directory name = .ok place ∧ isExcluded q.excluded place = false := by
  unfold admitted?
  cases q.disk.canonicalIn directory name with
  | error e => simp
  | ok there =>
    rw [Except.ok.injEq]
    show (if isExcluded q.excluded there = true then none else some there) = some place ↔ _
    split
    · next hexcluded =>
      refine ⟨fun h => (by cases h), ?_⟩
      rintro ⟨rfl, hnot⟩
      rw [hexcluded] at hnot
      cases hnot
    · next hexcluded =>
      rw [Option.some.injEq]
      refine ⟨?_, And.left⟩
      rintro rfl
      exact ⟨rfl, Bool.eq_false_iff.2 hexcluded⟩

lemma mem_subdirectories_iff :
    place ∈ q.subdirectories directory ↔ ∃ name ∈ q.disk.children directory,
      q.disk.canonicalIn directory name = .ok place ∧ q.Opens ⟨name, place⟩ := by
  unfold subdirectories Opens
  simp only [List.mem_filterMap, Option.filter_eq_some_iff, admitted?_eq_some_iff, and_assoc,
    Bool.and_eq_true, Bool.not_eq_true', Bool.and_eq_false_imp]

lemma mem_filesIn_iff :
    place ∈ q.filesIn directory ↔ ∃ name ∈ q.disk.children directory,
      q.disk.canonicalIn directory name = .ok place ∧ q.Takes ⟨name, place⟩ := by
  unfold filesIn Takes
  simp only [List.mem_filterMap, Option.filter_eq_some_iff, admitted?_eq_some_iff, and_assoc,
    Bool.and_eq_true]

/-! ## Collecting directories -/

/-- The directories found so far and those entered from them. -/
def grown (q : Query) (found : List (List FileName)) : List (List FileName) :=
  (found ++ found.flatMap q.subdirectories).eraseDups

variable {found : List (List FileName)} {rounds : Nat}

lemma expand_succ : q.expand (rounds + 1) found =
    if (q.grown found).length = found.length then found else q.expand rounds (q.grown found) := rfl

lemma mem_grown_iff : place ∈ q.grown found ↔
    place ∈ found ∨ ∃ directory ∈ found, place ∈ q.subdirectories directory := by
  unfold grown
  rw [List.mem_eraseDups, List.mem_append, List.mem_flatMap]

/-- What holds of the directories found so far and is kept from a directory to those entered from it
holds of all that are found. -/
lemma expand_induction {P : List FileName → Prop} (hfound : ∀ place ∈ found, P place)
    (henter : ∀ directory, P directory → ∀ place ∈ q.subdirectories directory, P place) :
    ∀ place ∈ q.expand rounds found, P place := by
  induction rounds generalizing found with
  | zero => exact hfound
  | succ rounds ih =>
    rw [expand_succ]
    split
    · exact hfound
    · refine ih fun place hplace => ?_
      rcases mem_grown_iff.1 hplace with hold | ⟨directory, hdirectory, hnew⟩
      · exact hfound place hold
      · exact henter directory (hfound directory hdirectory) place hnew

lemma subset_expand : found ⊆ q.expand rounds found := by
  induction rounds generalizing found with
  | zero => exact List.Subset.refl _
  | succ rounds ih =>
    rw [expand_succ]
    split
    · exact List.Subset.refl _
    · exact fun place hplace => ih (mem_grown_iff.2 (.inl hplace))

/-- If as many rounds are left as there are places that were not found, the search ends with the
directories entered from those it has found.

**Proof sketch.** Induction on the rounds. Without a round left all places of entries were found. A
round that finds nothing new ends the search rightly; any other finds a place. -/
lemma expand_closed (hnodup : found.Nodup)
    (hdirectories : ∀ place ∈ found, q.disk.isDirectory place = true)
    (hrounds : q.disk.entries.size < found.length + rounds) :
    ∀ directory ∈ q.expand rounds found, q.subdirectories directory ⊆ q.expand rounds found := by
  -- the places where a directory may stand
  have hplaces : ∀ {place}, q.disk.isDirectory place = true →
      place ∈ [] :: q.disk.entries.keys := by
    intro place hplace
    refine List.mem_cons.2 (Disk.inode?_ne_none_iff.1 ?_)
    rw [eq_of_beq hplace]
    exact Option.some_ne_none _
  have hlength : ([] :: q.disk.entries.keys).length = q.disk.entries.size + 1 := by
    simp [OrderedMap.keys, OrderedMap.size]
  induction rounds generalizing found with
  | zero =>
    have hall := (List.subperm_of_subset hnodup fun place hplace =>
      hplaces (hdirectories place hplace)).perm_of_length_le (by omega)
    intro directory _ place hplace
    obtain ⟨name, -, -, hopens⟩ := mem_subdirectories_iff.1 hplace
    exact hall.mem_iff.2 (hplaces hopens.2.1)
  | succ rounds ih =>
    have hgrown : (q.grown found).Nodup := nodup_eraseDups _
    have hsubset : found ⊆ q.grown found := fun place hplace => mem_grown_iff.2 (.inl hplace)
    rw [expand_succ]
    split
    · next hsame =>
      have hall := (List.subperm_of_subset hnodup hsubset).perm_of_length_le hsame.le
      intro directory hdirectory place hplace
      exact hall.mem_iff.2 (mem_grown_iff.2 (.inr ⟨directory, hdirectory, hplace⟩))
    · next hmore =>
      have hlonger := hnodup.length_le_of_subset hsubset
      refine ih hgrown ?_ (by omega)
      intro place hplace
      rcases mem_grown_iff.1 hplace with hold | ⟨directory, -, hnew⟩
      · exact hdirectories place hold
      · obtain ⟨name, -, -, hopens⟩ := mem_subdirectories_iff.1 hnew
        exact hopens.2.1

/-- The directories collected are those that walks enter. -/
theorem mem_reachable_iff (hroot : q.disk.isDirectory root = true) :
    directory ∈ q.reachable root ↔ q.disk.isDirectory directory = true ∧
      ∃ steps, q.disk.Walk root steps directory ∧ ∀ step ∈ steps, q.Opens step := by
  constructor
  · refine expand_induction (P := fun directory => q.disk.isDirectory directory = true ∧
      ∃ steps, q.disk.Walk root steps directory ∧ ∀ step ∈ steps, q.Opens step) ?_ ?_ directory
    · intro place hplace
      obtain rfl := List.mem_singleton.1 hplace
      exact ⟨hroot, [], .stay place, fun step hstep => by cases hstep⟩
    · rintro directory ⟨hdirectory, steps, hwalk, hopens⟩ place hplace
      obtain ⟨name, hname, hthere, hopen⟩ := mem_subdirectories_iff.1 hplace
      refine ⟨hopen.2.1, steps ++ [⟨name, place⟩],
        Disk.Walk.concat_iff.2 ⟨rfl, directory, hwalk, hdirectory, hname, hthere⟩,
        fun step hstep => ?_⟩
      rcases List.mem_append.1 hstep with hold | hnew
      · exact hopens step hold
      · exact List.mem_singleton.1 hnew ▸ hopen
  · rintro ⟨-, steps, hwalk, hopens⟩
    have hclosed : ∀ directory ∈ q.reachable root,
        q.subdirectories directory ⊆ q.reachable root :=
      expand_closed (List.nodup_singleton root)
        (fun place hplace => List.mem_singleton.1 hplace ▸ hroot) (by simp)
    have hstart : root ∈ q.reachable root := subset_expand List.mem_cons_self
    -- the walk does not leave what is closed
    generalize q.reachable root = collected at hclosed hstart ⊢
    clear hroot
    induction hwalk with
    | stay => exact hstart
    | enter _ hname hnext _ ih =>
      refine ih (fun step hstep => hopens step (List.mem_cons_of_mem _ hstep)) (hclosed _ hstart ?_)
      exact mem_subdirectories_iff.2 ⟨_, hname, hnext, hopens _ List.mem_cons_self⟩

end Query

/-! ## Admitted walks -/

/-- The place is that of an excluded path or below it. A path from the root stands for itself, any
other for a path below each folder. -/
def LeftOut (disk : Disk) (folders : List Path) (exclude : List String) (place : List FileName) :
    Prop :=
  ∃ text ∈ exclude,
    (Path.isAbsolute text = true ∧ placeOf disk text <+: place) ∨
    (Path.isAbsolute text = false ∧ ∃ folder ∈ folders, placeOf disk (folder.join text) <+: place)

/-- The name is that of a hidden directory or of one with build products. -/
def IsPassedOver (name : FileName) : Prop :=
  name.bytes.head? = some Path.dot ∨ ∃ text ∈ buildNames, name = .ofText text

instance : DecidablePred IsPassedOver := fun _ => inferInstanceAs (Decidable (_ ∨ _))

/-- The steps lead from a folder, which is the directory or file `root`, to a file, and the options
allow to take it by this way. -/
structure Allows (disk : Disk) (language : Language) (folders : List Path)
    (options : DiscoveryOptions) (folder : Path) (root : List FileName) (steps : List Step)
    (place : List FileName) : Prop where
  begins : disk.canonical folder = .ok root
  walk : disk.Walk root steps place
  /-- No entry on the walk is left out, neither the folder nor the file. -/
  included : ∀ passed ∈ root :: steps.map Step.place,
    ¬ LeftOut disk folders options.exclude passed
  /-- On request, no directory below the folder is hidden or has the name of build products. -/
  unskipped : options.skipBuildDirs = true → ∀ step ∈ steps,
    disk.isDirectory step.place = true → ¬ IsPassedOver step.name
  isFile : disk.isFile place = true
  handled : language.handlesPath (walked folder steps) = true
  small : ∀ limit ∈ options.maxBytes, disk.sizeOf place ≤ limit

/-- A search takes the file by this way: the options allow it, and no name is in the way that is no
text. -/
structure Admits (disk : Disk) (language : Language) (folders : List Path)
    (options : DiscoveryOptions) (folder : Path) (root : List FileName) (steps : List Step)
    (place : List FileName) : Prop
    extends Allows disk language folders options folder root steps place where
  /-- On request, every directory below the folder has a text for its name. -/
  legible : options.skipBuildDirs = true → ∀ step ∈ steps,
    disk.isDirectory step.place = true → ∃ text : String, step.name = .ofText text

/-- What a search with the given options goes by. -/
def query (disk : Disk) (language : Language) (folders : List Path) (options : DiscoveryOptions) :
    Query :=
  ⟨disk, language, excludedPlaces disk folders options.exclude, options.maxBytes,
    options.skipBuildDirs⟩

lemma discover_eq (disk : Disk) (language : Language) (folders : List Path)
    (options : DiscoveryOptions) :
    discover disk language folders options =
      ((folders.flatMap (query disk language folders options).filesBelow).eraseDups).map
        (Path.ofComponents true) := rfl

variable {disk : Disk} {language : Language} {folders : List Path} {options : DiscoveryOptions}
  {folder : Path} {root place : List FileName} {steps : List Step}

/-- A search enters the directories that are not passed over and have texts for their names. -/
lemma isSkippedName_eq_false_iff {name : FileName} :
    isSkippedName name = false ↔ ¬ IsPassedOver name ∧ ∃ text : String, name = .ofText text := by
  unfold isSkippedName
  cases htext : name.text? with
  | none =>
    refine iff_of_false (by simp) ?_
    rintro ⟨-, text, rfl⟩
    rw [FileName.text?_ofText] at htext
    cases htext
  | some text =>
    obtain rfl := FileName.text?_eq_some_iff.1 htext
    have hbuild : (∃ other ∈ buildNames, FileName.ofText text = .ofText other) ↔
        text ∈ buildNames := by
      simp [FileName.ofText_injective.eq_iff]
    rw [and_iff_left ⟨text, rfl⟩, ← Bool.not_eq_true, not_iff_not, Bool.or_eq_true, beq_iff_eq,
      List.contains_iff_mem, IsPassedOver, FileName.head?_ofText_eq_dot_iff, hbuild]

/-- What is left out is what is excluded. -/
lemma isExcluded_eq_false_iff {exclude : List String} :
    isExcluded (excludedPlaces disk folders exclude) place = false ↔
      ¬ LeftOut disk folders exclude place := by
  rw [← Bool.not_eq_true, not_iff_not]
  unfold isExcluded excludedPlaces LeftOut
  simp only [List.any_eq_true, List.mem_flatMap, List.isPrefixOf_iff_prefix]
  constructor
  · rintro ⟨prefixPlace, ⟨text, htext, hprefix⟩, hbelow⟩
    refine ⟨text, htext, ?_⟩
    split at hprefix
    · next habsolute =>
      obtain rfl := List.mem_singleton.1 hprefix
      exact .inl ⟨habsolute, hbelow⟩
    · next hrelative =>
      obtain ⟨folder, hfolder, rfl⟩ := List.mem_map.1 hprefix
      exact .inr ⟨Bool.eq_false_iff.2 hrelative, folder, hfolder, hbelow⟩
  · rintro ⟨text, htext, ⟨habsolute, hbelow⟩ | ⟨hrelative, folder, hfolder, hbelow⟩⟩
    · refine ⟨_, ⟨text, htext, ?_⟩, hbelow⟩
      rw [if_pos habsolute]
      exact List.mem_singleton_self _
    · refine ⟨_, ⟨text, htext, ?_⟩, hbelow⟩
      rw [if_neg (Bool.eq_false_iff.1 hrelative)]
      exact List.mem_map.2 ⟨folder, hfolder, rfl⟩

lemma fits_iff : (query disk language folders options).fits place = true ↔
    ∀ limit ∈ options.maxBytes, disk.sizeOf place ≤ limit := by
  unfold Query.fits query
  cases options.maxBytes <;> simp

/-- The extension that decides is that of the last name met. -/
lemma handlesPath_walked_concat {step : Step} (h : Path.IsName step.name) :
    language.handlesPath (walked folder (steps ++ [step])) =
      language.handlesExtension (Path.extensionOf? step.name) := by
  rw [Language.handlesPath, Disk.walked_concat, Path.extension?_join_name h]

/-- A walk without steps is admitted if the folder is itself a file to take. -/
lemma admits_nil_iff : Admits disk language folders options folder root [] place ↔
    root = place ∧ disk.canonical folder = .ok root ∧
      ¬ LeftOut disk folders options.exclude root ∧
      disk.isFile root = true ∧ language.handlesPath folder = true ∧
      (query disk language folders options).fits root = true := by
  rw [fits_iff]
  constructor
  · intro h
    have hwalk := h.walk
    cases hwalk
    exact ⟨rfl, h.begins, h.included _ List.mem_cons_self, h.isFile, h.handled, h.small⟩
  · rintro ⟨rfl, hbegins, hincluded, hfile, hhandled, hsmall⟩
    exact
      { begins := hbegins
        walk := .stay root
        included := fun passed hpassed => List.mem_singleton.1 hpassed ▸ hincluded
        unskipped := fun _ step hstep => absurd hstep List.not_mem_nil
        legible := fun _ step hstep => absurd hstep List.not_mem_nil
        isFile := hfile
        handled := hhandled
        small := hsmall }

/-- A walk with a last step is admitted if the directories before it are entered and the file is
taken. -/
lemma admits_concat_iff {step : Step} (hname : Path.IsName step.name) :
    Admits disk language folders options folder root (steps ++ [step]) place ↔
      disk.Walk root (steps ++ [step]) place ∧ disk.canonical folder = .ok root ∧
        ¬ LeftOut disk folders options.exclude root ∧
        (∀ before ∈ steps, (query disk language folders options).Opens before) ∧
        (query disk language folders options).Takes step := by
  constructor
  · intro h
    obtain ⟨rfl, directory, hwalk, hdirectory, -⟩ := Disk.Walk.concat_iff.1 h.walk
    have hincluded : ∀ before ∈ steps ++ [step],
        isExcluded (query disk language folders options).excluded before.place = false :=
      fun before hbefore => isExcluded_eq_false_iff.2
        (h.included _ (List.mem_cons_of_mem _ (List.mem_map_of_mem hbefore)))
    refine ⟨h.walk, h.begins, h.included _ List.mem_cons_self, ?_,
      hincluded step (by simp), h.isFile, ?_, fits_iff.2 h.small⟩
    · intro before hbefore
      have hopen := hwalk.isDirectory_of_mem hdirectory
        (List.mem_cons_of_mem _ (List.mem_map_of_mem hbefore))
      have hmem := List.mem_append_left [step] hbefore
      exact ⟨hincluded before hmem, hopen, fun hskip => isSkippedName_eq_false_iff.2
        ⟨h.unskipped hskip before hmem hopen, h.legible hskip before hmem hopen⟩⟩
    · exact (handlesPath_walked_concat hname).symm.trans h.handled
  · rintro ⟨hwalk, hbegins, hroot, hopens, hincluded, hfile, hhandled, hfits⟩
    obtain ⟨rfl, -⟩ := Disk.Walk.concat_iff.1 hwalk
    have hcases : ∀ before ∈ steps ++ [step], before ∈ steps ∨ before = step :=
      fun before hbefore => by simpa using hbefore
    have hentered : options.skipBuildDirs = true → ∀ before ∈ steps ++ [step],
        disk.isDirectory before.place = true →
          ¬ IsPassedOver before.name ∧ ∃ text : String, before.name = .ofText text := by
      intro hskip before hbefore hdirectory
      rcases hcases before hbefore with hbefore | rfl
      · exact isSkippedName_eq_false_iff.1 ((hopens before hbefore).2.2 hskip)
      · exact absurd hdirectory (Bool.eq_false_iff.1 (Disk.isDirectory_of_isFile hfile))
    refine
      { begins := hbegins
        walk := hwalk
        included := ?_
        unskipped := fun hskip before hbefore hdirectory =>
          (hentered hskip before hbefore hdirectory).1
        legible := fun hskip before hbefore hdirectory =>
          (hentered hskip before hbefore hdirectory).2
        isFile := hfile
        handled := (handlesPath_walked_concat hname).trans hhandled
        small := fits_iff.1 hfits }
    intro passed hpassed
    rcases List.mem_cons.1 hpassed with rfl | hpassed
    · exact hroot
    · obtain ⟨before, hbefore, rfl⟩ := List.mem_map.1 hpassed
      rcases hcases before hbefore with hbefore | rfl
      · exact isExcluded_eq_false_iff.1 (hopens before hbefore).1
      · exact isExcluded_eq_false_iff.1 hincluded

/-- The files found below one folder. -/
theorem mem_filesBelow_iff (hnamed : disk.Named) :
    place ∈ (query disk language folders options).filesBelow folder ↔
      ∃ root steps, Admits disk language folders options folder root steps place := by
  unfold Query.filesBelow
  constructor
  · intro hplace
    split at hplace
    · cases hplace
    · next root hroot =>
      split at hplace
      · cases hplace
      · next hincluded =>
        rw [Bool.not_eq_true] at hincluded
        have hincluded := isExcluded_eq_false_iff.1 hincluded
        split at hplace
        · next hdirectory =>
          obtain ⟨directory, hreached, hfile⟩ := List.mem_flatMap.1 hplace
          obtain ⟨hlast, steps, hwalk, hopens⟩ := (Query.mem_reachable_iff hdirectory).1 hreached
          obtain ⟨name, hname, hthere, htakes⟩ := Query.mem_filesIn_iff.1 hfile
          have hwhole : disk.Walk root (steps ++ [⟨name, place⟩]) place :=
            Disk.Walk.concat_iff.2 ⟨rfl, directory, hwalk, hlast, hname, hthere⟩
          exact ⟨root, _, (admits_concat_iff (hwhole.isName hnamed _ (by simp))).2
            ⟨hwhole, hroot, hincluded, hopens, htakes⟩⟩
        · split at hplace
          · next hfile =>
            simp only [Bool.and_eq_true, and_assoc] at hfile
            exact ⟨root, [], admits_nil_iff.2
              ⟨(List.mem_singleton.1 hplace).symm, hroot, hincluded, hfile⟩⟩
          · cases hplace
  · rintro ⟨root, steps, h⟩
    have hroot : (query disk language folders options).disk.canonical folder = .ok root := h.begins
    have hincluded : isExcluded (query disk language folders options).excluded root = false :=
      isExcluded_eq_false_iff.2 (h.included root List.mem_cons_self)
    simp only [hroot]
    rw [if_neg (Bool.eq_false_iff.1 hincluded)]
    rcases List.eq_nil_or_concat steps with rfl | ⟨front, last, rfl⟩
    · obtain ⟨rfl, -, -, hfile⟩ := admits_nil_iff.1 h
      have hdirectory : (query disk language folders options).disk.isDirectory root = false :=
        Disk.isDirectory_of_isFile hfile.1
      rw [if_neg (Bool.eq_false_iff.1 hdirectory), if_pos]
      · exact List.mem_singleton_self _
      · simp only [Bool.and_eq_true, and_assoc]
        exact hfile
    · rw [List.concat_eq_append] at h
      obtain ⟨hwalk, -, -, hopens, htakes⟩ :=
        (admits_concat_iff (h.walk.isName hnamed _ (by simp))).1 h
      obtain ⟨rfl, directory, hfront, hlast, hname, hthere⟩ := Disk.Walk.concat_iff.1 hwalk
      have hdirectory : (query disk language folders options).disk.isDirectory root = true :=
        hfront.isDirectory_of_mem hlast List.mem_cons_self
      rw [if_pos hdirectory]
      exact List.mem_flatMap.2 ⟨directory,
        (Query.mem_reachable_iff hdirectory).2 ⟨hlast, front, hfront, hopens⟩,
        Query.mem_filesIn_iff.2 ⟨last.name, hname, hthere, htakes⟩⟩

/-! ## Searches -/

/-- What is found is what admitted walks lead to. -/
lemma mem_discover_iff (hnamed : disk.Named) {path : Path} :
    path ∈ discover disk language folders options ↔
      ∃ folder ∈ folders, ∃ root steps place,
        Admits disk language folders options folder root steps place ∧
          path = Path.ofComponents true place := by
  rw [discover_eq]
  constructor
  · intro hpath
    obtain ⟨place, hplace, rfl⟩ := List.mem_map.1 hpath
    obtain ⟨folder, hfolder, hplace⟩ := List.mem_flatMap.1 (List.mem_eraseDups.1 hplace)
    obtain ⟨root, steps, h⟩ := (mem_filesBelow_iff hnamed).1 hplace
    exact ⟨folder, hfolder, root, steps, place, h, rfl⟩
  · rintro ⟨folder, hfolder, root, steps, place, h, rfl⟩
    refine List.mem_map_of_mem (List.mem_eraseDups.2 (List.mem_flatMap.2 ⟨folder, hfolder, ?_⟩))
    exact (mem_filesBelow_iff hnamed).2 ⟨root, steps, h⟩

/-- A language for the files of that disk. -/
def miniLanguage : Language :=
  (Language.create "mini" fun _ _ => .ok ⟨none, []⟩).withExtensions [".mini"]

end Discovery

end CodeIndex
