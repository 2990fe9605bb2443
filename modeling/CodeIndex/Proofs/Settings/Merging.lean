import CodeIndex.Settings.Patch
import Mathlib.Data.Fintype.Basic

set_option relaxedAutoImplicit false
set_option autoImplicit false

/-!
# Merging field by field

A payload is merged in two passes: the payload itself counts first and its section after it, each
only if it decodes as a whole. Read off at a single field this is a look-up in reverse order: the
section decides if it sets the field, the payload itself if the section does not, and the settings
before the merge if neither does.

Whether a part of a payload counts is stated here over the fields of the settings: by the group and
the names under which a field is looked up, and by the values that it may have.

## Main definitions

* `Settings.Field` — the fields of the settings, with the type of their values, the group and the
  names that they have in a payload, and their normal form.
* `Settings.Field.Denotes` — the JSON values that stand for the values of a field.
* `Settings.WellTyped` — a part of a payload decodes as a whole.
* `Settings.Field.set?` — the value that a part of a payload sets a field to.
* `Settings.SameFields` — two parts of payloads that hold the same for each field.

## Main results

* `Settings.Field.decode?_eq_some_iff`, `Settings.decode?_eq` — the decoder accepts exactly the
  values that stand for values of the fields, and exactly the well-typed candidates.
* `Settings.read_merge` — a field after a merge.
* `Settings.merge_fieldwise` — a merge by fields: the section first, nothing from a candidate that
  is not well typed, and nothing from unknown, absent and null members.
-/

namespace CodeIndex

/-- Whether a value is null. -/
def Json.isNull : Json → Bool
  | .null => true
  | _ => false

/-- Whether a value is an object. -/
def Json.isObject : Json → Bool
  | .object _ => true
  | _ => false

lemma Json.isNull_iff {j : Json} : j.isNull ↔ j = .null := by
  cases j <;> simp [isNull]

@[simp] lemma Json.isObject_object (ms : List (String × Json)) : (Json.object ms).isObject = true :=
  rfl

namespace Settings

/-! ## The fields of the settings -/

/-- The groups of fields. -/
inductive Group where
  | diagnostics
  | indexing
  | completion
  | logging
deriving DecidableEq, Repr

instance : Fintype Group where
  elems := {.diagnostics, .indexing, .completion, .logging}
  complete G := by cases G <;> decide

/-- The member of a payload that holds a group. -/
def Group.name : Group → String
  | .diagnostics => "diagnostics"
  | .indexing => "indexing"
  | .completion => "completion"
  | .logging => "logging"

/-- The fields of the settings. -/
inductive Field where
  | showParsingErrors
  | showAstWarnings
  | showLeafPositions
  | suppressCategories
  | suppressPatterns
  | enabled
  | maxFileSizeKb
  | excludePaths
  | previousTokenFallback
  | tokenLiterals
  | level
deriving DecidableEq, Repr

instance : Fintype Field where
  elems := {.showParsingErrors, .showAstWarnings, .showLeafPositions, .suppressCategories,
    .suppressPatterns, .enabled, .maxFileSizeKb, .excludePaths, .previousTokenFallback,
    .tokenLiterals, .level}
  complete f := by cases f <;> decide

/-- A JSON value names a choice: it is the name, or an object with that one member and no
content. -/
def Names (j : Json) (name : String) : Prop := j = .string name ∨ j = .object [(name, .null)]

/-- A JSON value lists values: it is an array, whose elements stand for them one by one. -/
def Lists {α : Type} (denotes : Json → α → Prop) (j : Json) (values : List α) : Prop :=
  ∃ js, j = .array js ∧ List.Forall₂ denotes js values

namespace Field

/-- The type of the values of a field. -/
abbrev Value : Field → Type
  | .suppressCategories => List IssueCategory
  | .suppressPatterns | .excludePaths => List String
  | .maxFileSizeKb => Nat
  | .level => LogLevel
  | .showParsingErrors | .showAstWarnings | .showLeafPositions | .enabled
  | .previousTokenFallback | .tokenLiterals => Bool

/-- The value of a field. -/
def read : (f : Field) → Settings → f.Value
  | .showParsingErrors, s => s.diagnostics.showParsingErrors
  | .showAstWarnings, s => s.diagnostics.showAstWarnings
  | .showLeafPositions, s => s.diagnostics.showLeafPositions
  | .suppressCategories, s => s.diagnostics.suppressCategories
  | .suppressPatterns, s => s.diagnostics.suppressPatterns
  | .enabled, s => s.indexing.enabled
  | .maxFileSizeKb, s => s.indexing.maxFileSizeKb
  | .excludePaths, s => s.indexing.excludePaths
  | .previousTokenFallback, s => s.completion.previousTokenFallback
  | .tokenLiterals, s => s.completion.tokenLiterals
  | .level, s => s.logLevel

/-- The normal form of a value: a size is clamped, texts are trimmed and not empty, and categories
and paths do not repeat. -/
def normal : (f : Field) → f.Value → f.Value
  | .suppressCategories, categories => categories.eraseDups
  | .suppressPatterns, patterns => trimAll patterns
  | .maxFileSizeKb, size => min (max size minFileSizeKb) CodeIndex.maxFileSizeKb
  | .excludePaths, paths => (trimAll paths).eraseDups
  | .showParsingErrors, v | .showAstWarnings, v | .showLeafPositions, v | .enabled, v
  | .previousTokenFallback, v | .tokenLiterals, v => v
  | .level, v => v

/-- The group of a field. -/
def group : Field → Group
  | .showParsingErrors | .showAstWarnings | .showLeafPositions | .suppressCategories
  | .suppressPatterns => .diagnostics
  | .enabled | .maxFileSizeKb | .excludePaths => .indexing
  | .previousTokenFallback | .tokenLiterals => .completion
  | .level => .logging

/-- The names of a field within its group. Only the warnings on the tree have two. -/
def names : Field → List String
  | .showParsingErrors => ["showParsingErrors"]
  | .showAstWarnings => ["showAstWarnings", "showASTWarnings"]
  | .showLeafPositions => ["showLeafPositions"]
  | .suppressCategories => ["suppressCategories"]
  | .suppressPatterns => ["suppressPatterns"]
  | .enabled => ["enabled"]
  | .maxFileSizeKb => ["maxFileSizeKb"]
  | .excludePaths => ["excludePaths"]
  | .previousTokenFallback => ["previousTokenFallback"]
  | .tokenLiterals => ["tokenLiterals"]
  | .level => ["level"]

/-- The value that a JSON value stands for. -/
def decode? : (f : Field) → Json → Option f.Value
  | .showParsingErrors | .showAstWarnings | .showLeafPositions | .enabled
  | .previousTokenFallback | .tokenLiterals => Json.bool?
  | .suppressCategories => listOf? category?
  | .suppressPatterns | .excludePaths => listOf? Json.string?
  | .maxFileSizeKb => Json.nat?
  | .level => level?

/-- The JSON values that stand for a value of a field: a boolean, a name, a list of names or texts,
or an integer that fits in a word. -/
def Denotes : (f : Field) → Json → f.Value → Prop
  | .suppressCategories, j, cs => Lists (fun j category => Names j category.text) j cs
  | .suppressPatterns, j, texts => Lists (fun j text => j = .string text) j texts
  | .excludePaths, j, texts => Lists (fun j text => j = .string text) j texts
  | .maxFileSizeKb, j, n => n ≤ Json.maxWord ∧ ∃ scale, j = .number ⟨false, n, scale, true⟩
  | .level, j, l => Names j (LogLevel.text l)
  | .showParsingErrors, j, b | .showAstWarnings, j, b | .showLeafPositions, j, b | .enabled, j, b
  | .previousTokenFallback, j, b | .tokenLiterals, j, b => j = .bool b

/-- What a group holds under the names of a field. -/
def given (f : Field) (g : Json) : List Json := f.names.filterMap fun name => g.member? name

/-- A group holds a field under one of its names at most, as null or as a value of its type. -/
def Fits (f : Field) (g : Json) : Prop :=
  (f.given g).length ≤ 1 ∧ ∀ j ∈ f.given g, j.isNull ∨ (f.decode? j).isSome

instance (f : Field) (g : Json) : Decidable (f.Fits g) := inferInstanceAs (Decidable (_ ∧ _))

/-- The value that a group holds for a field. -/
def value? (f : Field) (g : Json) : Option f.Value := (f.given g).findSome? f.decode?

end Field

/-- A group decodes: it is an object that fits each of the group's fields. -/
def Group.WellTyped (G : Group) (g : Json) : Prop :=
  g.isObject ∧ ∀ f : Field, f.group = G → f.Fits g

instance (G : Group) (g : Json) : Decidable (G.WellTyped g) :=
  inferInstanceAs (Decidable (_ ∧ _))

/-- A candidate decodes as a whole: it is an object, and each of its groups is absent, null or well
typed. -/
def WellTyped (c : Json) : Prop :=
  c.isObject ∧ ∀ G : Group, ∀ g ∈ c.member? G.name, g.isNull ∨ G.WellTyped g

instance (c : Json) : Decidable (WellTyped c) := inferInstanceAs (Decidable (_ ∧ _))

/-- What a candidate sets a field to. A candidate that is not well typed sets nothing. -/
def Field.set? (f : Field) (c : Json) : Option f.Value :=
  if WellTyped c then (c.member? f.group.name).bind f.value? else none

/-! ## Values of fields -/

lemma choice?_eq_some_iff {j : Json} {name : String} : choice? j = some name ↔ Names j name := by
  unfold choice? Names
  split <;> simp_all

lemma category?_eq_some_iff {j : Json} {category : IssueCategory} :
    category? j = some category ↔ Names j category.text := by
  rw [← choice?_eq_some_iff, category?]
  constructor
  · intro h
    split at h <;> cases h <;> assumption
  · intro h
    rw [h]
    cases category <;> rfl

lemma level?_eq_some_iff {j : Json} {level : LogLevel} :
    level? j = some level ↔ Names j level.text := by
  rw [← choice?_eq_some_iff, level?]
  constructor
  · intro h
    split at h <;> cases h <;> assumption
  · intro h
    rw [h]
    cases level <;> rfl

/-- Elements decode one by one. -/
lemma mapM_eq_some_iff {α : Type} {decode : Json → Option α} {denotes : Json → α → Prop}
    (h : ∀ j a, decode j = some a ↔ denotes j a) {js : List Json} {values : List α} :
    js.mapM decode = some values ↔ List.Forall₂ denotes js values := by
  induction js generalizing values with
  | nil => cases values <;> simp
  | cons j js ih => cases values <;> simp [List.mapM_cons, Option.bind_eq_some_iff, ih, h]

/-- A list decodes if each of its elements does. -/
lemma listOf?_eq_some_iff {α : Type} {decode : Json → Option α} {denotes : Json → α → Prop}
    (h : ∀ j a, decode j = some a ↔ denotes j a) {j : Json} {values : List α} :
    listOf? decode j = some values ↔ Lists denotes j values := by
  cases j with
  | array js => simp [listOf?, Lists, mapM_eq_some_iff h]
  | _ => simp [listOf?, Lists]

lemma string?_eq_some_iff {j : Json} {text : String} :
    j.string? = some text ↔ j = .string text := by
  cases j <;> simp [Json.string?]

lemma nat?_eq_some_iff {j : Json} {n : Nat} :
    j.nat? = some n ↔ n ≤ Json.maxWord ∧ ∃ scale, j = .number ⟨false, n, scale, true⟩ := by
  cases j with
  | number m =>
    obtain ⟨negative, digits, scale, integral⟩ := m
    cases negative <;> cases integral <;> simp [Json.nat?]
    rintro rfl
    rfl
  | _ => simp [Json.nat?]

/-- A field decodes the JSON values that stand for its values. -/
lemma Field.decode?_eq_some_iff (f : Field) (j : Json) (v : f.Value) :
    f.decode? j = some v ↔ f.Denotes j v := by
  cases f with
  | suppressCategories => exact listOf?_eq_some_iff fun _ _ => category?_eq_some_iff
  | suppressPatterns => exact listOf?_eq_some_iff fun _ _ => string?_eq_some_iff
  | excludePaths => exact listOf?_eq_some_iff fun _ _ => string?_eq_some_iff
  | maxFileSizeKb => exact nat?_eq_some_iff
  | level => exact level?_eq_some_iff
  | _ => cases j <;> simp [decode?, Denotes, Json.bool?]

/-! ## The decoder by fields -/

/-- An optional member decodes if it is absent, null or a value that decodes. -/
lemma field?_eq {α : Type} {decode : Json → Option α} (hnull : decode .null = none)
    (v : Option Json) :
    field? decode v =
      if ∀ j ∈ v, j.isNull ∨ (decode j).isSome then some (v.bind decode) else none := by
  cases v with
  | none => simp [field?]
  | some j =>
    cases j with
    | null => simp [field?, hnull, Json.isNull]
    | _ =>
      simp only [field?, Option.mem_def, Option.some.injEq, forall_eq', Json.isNull,
        Bool.false_eq_true, false_or, Option.bind_some]
      cases decode _ <;> rfl

namespace Field

@[simp] lemma decode?_null (f : Field) : f.decode? .null = none := by
  cases f <;> rfl

/-- A field with one name is decoded under that name. -/
lemma field?_lookup {f : Field} {name : String} (hf : f.names = [name])
    (ms : List (String × Json)) :
    field? f.decode? (ms.lookup name) =
      if f.Fits (.object ms) then some (f.value? (.object ms)) else none := by
  rw [field?_eq f.decode?_null]
  cases hms : ms.lookup name <;> simp [Fits, value?, given, Json.member?, hf, hms]

/-- The warnings on the tree are decoded under whichever of their names is there, and refused under
both. -/
lemma field?_either? (ms : List (String × Json)) :
    (either? (ms.lookup "showAstWarnings") (ms.lookup "showASTWarnings")).bind
        (field? showAstWarnings.decode?) =
      if showAstWarnings.Fits (.object ms) then some (showAstWarnings.value? (.object ms))
      else none := by
  cases ha : ms.lookup "showAstWarnings" <;> cases hb : ms.lookup "showASTWarnings" <;>
    simp [either?, Fits, value?, given, names, Json.member?, ha, hb, field?_eq]

/-- A statement about all fields, field by field. -/
lemma forall_iff {P : Field → Prop} :
    (∀ f, P f) ↔ P .showParsingErrors ∧ P .showAstWarnings ∧ P .showLeafPositions ∧
      P .suppressCategories ∧ P .suppressPatterns ∧ P .enabled ∧ P .maxFileSizeKb ∧
      P .excludePaths ∧ P .previousTokenFallback ∧ P .tokenLiterals ∧ P .level := by
  refine ⟨fun h => ⟨h _, h _, h _, h _, h _, h _, h _, h _, h _, h _, h _⟩, ?_⟩
  rintro ⟨h₁, h₂, h₃, h₄, h₅, h₆, h₇, h₈, h₉, h₁₀, h₁₁⟩ f
  cases f <;> assumption

end Field

/-- A statement about all groups, group by group. -/
lemma Group.forall_iff {P : Group → Prop} :
    (∀ G, P G) ↔ P .diagnostics ∧ P .indexing ∧ P .completion ∧ P .logging := by
  refine ⟨fun h => ⟨h _, h _, h _, h _⟩, ?_⟩
  rintro ⟨h₁, h₂, h₃, h₄⟩ G
  cases G <;> assumption

lemma guarded_bind {α β : Type} {P : Prop} [Decidable P] (a : α) (k : α → Option β) :
    (if P then some a else none).bind k = if P then k a else none := by
  split <;> rfl

lemma guarded_map {α β : Type} {P : Prop} [Decidable P] (a : α) (k : α → β) :
    (if P then some a else none).map k = if P then some (k a) else none := by
  split <;> rfl

/-- A decoder of objects is known by what it does on objects. -/
lemma members?_bind_eq {α : Type} {P : Json → Prop} [DecidablePred P] {value : Json → α}
    {k : List (String × Json) → Option α} (hP : ∀ g, P g → g.isObject)
    (hk : ∀ ms, k ms = if P (.object ms) then some (value (.object ms)) else none) (g : Json) :
    (members? g).bind k = if P g then some (value g) else none := by
  cases g with
  | object ms => exact hk ms
  | _ => exact (if_neg fun h => by simpa [Json.isObject] using hP _ h).symm

/-- The diagnostics section decodes if it is well typed, and then field by field. -/
lemma DiagnosticsPatch.decode?_eq (g : Json) :
    DiagnosticsPatch.decode? g =
      if Group.diagnostics.WellTyped g then
        some ⟨Field.showParsingErrors.value? g, Field.showAstWarnings.value? g,
          Field.showLeafPositions.value? g, Field.suppressCategories.value? g,
          Field.suppressPatterns.value? g⟩
      else none := by
  apply members?_bind_eq (P := Group.diagnostics.WellTyped) (fun _ h => h.1)
  intro ms
  -- the same decoder, written with the decoders of the fields
  calc
    _ = (field? Field.showParsingErrors.decode? (ms.lookup "showParsingErrors")).bind fun a =>
        (either? (ms.lookup "showAstWarnings") (ms.lookup "showASTWarnings")).bind fun w =>
        (field? Field.showAstWarnings.decode? w).bind fun b =>
        (field? Field.showLeafPositions.decode? (ms.lookup "showLeafPositions")).bind fun c =>
        (field? Field.suppressCategories.decode? (ms.lookup "suppressCategories")).bind fun d =>
        (field? Field.suppressPatterns.decode? (ms.lookup "suppressPatterns")).map fun e =>
          DiagnosticsPatch.mk a b c d e := rfl
    _ = _ := by
      simp only [← Option.bind_assoc]
      rw [Field.field?_either?, Field.field?_lookup (f := .showParsingErrors) rfl,
        Field.field?_lookup (f := .showLeafPositions) rfl,
        Field.field?_lookup (f := .suppressCategories) rfl,
        Field.field?_lookup (f := .suppressPatterns) rfl]
      simp only [guarded_bind, guarded_map, ← ite_and]
      refine if_congr ?_ rfl rfl
      simp [Group.WellTyped, Field.forall_iff, Field.group]

/-- The indexing section decodes if it is well typed, and then field by field. -/
lemma IndexingPatch.decode?_eq (g : Json) :
    IndexingPatch.decode? g =
      if Group.indexing.WellTyped g then
        some ⟨Field.enabled.value? g, Field.maxFileSizeKb.value? g, Field.excludePaths.value? g⟩
      else none := by
  apply members?_bind_eq (P := Group.indexing.WellTyped) (fun _ h => h.1)
  intro ms
  calc
    _ = (field? Field.enabled.decode? (ms.lookup "enabled")).bind fun a =>
        (field? Field.maxFileSizeKb.decode? (ms.lookup "maxFileSizeKb")).bind fun b =>
        (field? Field.excludePaths.decode? (ms.lookup "excludePaths")).map fun c =>
          IndexingPatch.mk a b c := rfl
    _ = _ := by
      rw [Field.field?_lookup (f := .enabled) rfl, Field.field?_lookup (f := .maxFileSizeKb) rfl,
        Field.field?_lookup (f := .excludePaths) rfl]
      simp only [guarded_bind, guarded_map, ← ite_and]
      refine if_congr ?_ rfl rfl
      simp [Group.WellTyped, Field.forall_iff, Field.group]

/-- The completion section decodes if it is well typed, and then field by field. -/
lemma CompletionPatch.decode?_eq (g : Json) :
    CompletionPatch.decode? g =
      if Group.completion.WellTyped g then
        some ⟨Field.previousTokenFallback.value? g, Field.tokenLiterals.value? g⟩
      else none := by
  apply members?_bind_eq (P := Group.completion.WellTyped) (fun _ h => h.1)
  intro ms
  calc
    _ = (field? Field.previousTokenFallback.decode?
          (ms.lookup "previousTokenFallback")).bind fun a =>
        (field? Field.tokenLiterals.decode? (ms.lookup "tokenLiterals")).map fun b =>
          CompletionPatch.mk a b := rfl
    _ = _ := by
      rw [Field.field?_lookup (f := .previousTokenFallback) rfl,
        Field.field?_lookup (f := .tokenLiterals) rfl]
      simp only [guarded_bind, guarded_map, ← ite_and]
      refine if_congr ?_ rfl rfl
      simp [Group.WellTyped, Field.forall_iff, Field.group]

/-- The logging section decodes if it is well typed, and then to the level. -/
lemma decodeLogging?_eq (g : Json) :
    decodeLogging? g =
      if Group.logging.WellTyped g then some (Field.level.value? g) else none := by
  apply members?_bind_eq (P := Group.logging.WellTyped) (fun _ h => h.1)
  intro ms
  calc
    _ = field? Field.level.decode? (ms.lookup "level") := rfl
    _ = _ := by
      rw [Field.field?_lookup rfl]
      refine if_congr ?_ rfl rfl
      simp [Group.WellTyped, Field.forall_iff, Field.group]

/-- **The decoder accepts exactly the well-typed candidates**, and decodes them group by group. -/
theorem decode?_eq (c : Json) :
    Patch.decode? c =
      if WellTyped c then
        some ⟨(c.member? "diagnostics").bind DiagnosticsPatch.decode?,
          (c.member? "indexing").bind IndexingPatch.decode?,
          (c.member? "completion").bind CompletionPatch.decode?,
          (c.member? "logging").bind decodeLogging?⟩
      else none := by
  apply members?_bind_eq (P := WellTyped) (fun _ h => h.1)
  intro ms
  -- a group is an optional member as well, whose decoder accepts the well-typed groups
  rw [field?_eq rfl, field?_eq rfl, field?_eq rfl, field?_eq rfl]
  simp only [guarded_bind, guarded_map, ← ite_and]
  refine if_congr ?_ rfl rfl
  simp [WellTyped, Group.forall_iff, Group.name, Json.member?, DiagnosticsPatch.decode?_eq,
    IndexingPatch.decode?_eq, CompletionPatch.decode?_eq, decodeLogging?_eq]

/-! ## A field after a merge -/

namespace Field

/-- What a patch sets a field to. -/
def ofPatch : (f : Field) → Patch → Option f.Value
  | .showParsingErrors, p => p.diagnostics.bind (·.showParsingErrors)
  | .showAstWarnings, p => p.diagnostics.bind (·.showAstWarnings)
  | .showLeafPositions, p => p.diagnostics.bind (·.showLeafPositions)
  | .suppressCategories, p => p.diagnostics.bind (·.suppressCategories)
  | .suppressPatterns, p => p.diagnostics.bind (·.suppressPatterns)
  | .enabled, p => p.indexing.bind (·.enabled)
  | .maxFileSizeKb, p => p.indexing.bind (·.maxFileSizeKb)
  | .excludePaths, p => p.indexing.bind (·.excludePaths)
  | .previousTokenFallback, p => p.completion.bind (·.previousTokenFallback)
  | .tokenLiterals, p => p.completion.bind (·.tokenLiterals)
  | .level, p => p.logLevel.bind id

lemma read_apply (f : Field) (p : Patch) (s : Settings) :
    f.read (p.apply s) = (f.ofPatch p).getD (f.read s) := by
  obtain ⟨diagnostics, indexing, completion, logLevel⟩ := p
  cases f <;> cases diagnostics <;> cases indexing <;> cases completion <;> rfl

lemma read_normalize (f : Field) (s : Settings) : f.read s.normalize = f.normal (f.read s) := by
  cases f <;> rfl

/-- Settings are known by their fields. -/
lemma ext_read {s t : Settings} (h : ∀ f : Field, f.read s = f.read t) : s = t := by
  obtain ⟨⟨_, _, _, _, _⟩, ⟨_, _, _⟩, ⟨_, _⟩, _⟩ := s
  obtain ⟨⟨_, _, _, _, _⟩, ⟨_, _, _⟩, ⟨_, _⟩, _⟩ := t
  obtain ⟨h₁, h₂, h₃, h₄, h₅, h₆, h₇, h₈, h₉, h₁₀, h₁₁⟩ := forall_iff.mp h
  simp only [read] at *
  subst_vars
  rfl

/-- A field under whose names a group holds nothing but null has no value. -/
lemma value?_eq_none {f : Field} {g : Json} (hg : ∀ j ∈ f.given g, j.isNull) :
    f.value? g = none := by
  refine List.findSome?_eq_none_iff.mpr fun j hj => ?_
  rw [Json.isNull_iff.mp (hg j hj), decode?_null]

/-- A patch that decodes sets a field to the value that the field's group holds for it. -/
lemma ofPatch_decode? {c : Json} {p : Patch} (hp : Patch.decode? c = some p) (f : Field) :
    f.ofPatch p = (c.member? f.group.name).bind f.value? := by
  rw [decode?_eq] at hp
  obtain ⟨hc, hp⟩ := Option.ite_none_right_eq_some.mp hp
  cases hp
  have hvalue : ∀ g ∈ c.member? f.group.name,
      (if f.group.WellTyped g then f.value? g else none) = f.value? g := fun g hg => by
    -- a group that is null sets nothing, and holds nothing that could be set
    obtain hnull | htyped := hc.2 f.group g hg
    · rw [Json.isNull_iff.mp hnull, value?_eq_none (by simp [given, Json.member?]), ite_self]
    · exact if_pos htyped
  cases f <;> simp only [ofPatch, Option.bind_assoc] <;>
    refine Option.bind_congr fun g hg => (Eq.trans ?_ (hvalue g hg))
  all_goals
    simp only [DiagnosticsPatch.decode?_eq, IndexingPatch.decode?_eq, CompletionPatch.decode?_eq,
      decodeLogging?_eq, guarded_bind, group]
    rfl

/-- What a candidate sets a field to, by way of the decoder. -/
lemma set?_eq (f : Field) (c : Json) : f.set? c = (Patch.decode? c).bind f.ofPatch := by
  cases hp : Patch.decode? c with
  | none =>
    rw [decode?_eq] at hp
    have hc : ¬ WellTyped c := by simpa using hp
    exact if_neg hc
  | some p =>
    have hc : WellTyped c := by
      by_contra hc
      rw [decode?_eq, if_neg hc] at hp
      exact Option.some_ne_none p hp.symm
    rw [set?, if_pos hc, Option.bind_some, ofPatch_decode? hp]

lemma read_applyCandidate (f : Field) (s : Settings) (c : Json) :
    f.read (applyCandidate s c) = (f.set? c).getD (f.read s) := by
  rw [set?_eq, applyCandidate]
  cases Patch.decode? c with
  | none => rfl
  | some p => exact read_apply f p s

end Field

/-- **A field after a merge**: the section decides, or else the payload itself, or else the settings
before. -/
theorem read_merge (f : Field) (s : Settings) (payload : Json) (sectionName : String) :
    f.read (s.merge payload sectionName) =
      f.normal ((((payload.member? sectionName).bind f.set?).or (f.set? payload)).getD
        (f.read s)) := by
  rw [merge, Field.read_normalize]
  congr 1
  cases hm : payload.member? sectionName with
  | none => simp [candidates, hm, Field.read_applyCandidate]
  | some c =>
    simp only [candidates, hm, Option.toList_some, List.foldl_cons, List.foldl_nil,
      Field.read_applyCandidate, Option.bind_some]
    cases f.set? c <;> rfl

/-! ## What does not count -/

/-- Two groups hold the same for each of their fields. -/
structure Group.Same (G : Group) (g g' : Json) : Prop where
  isNull : g.isNull = g'.isNull
  isObject : g.isObject = g'.isObject
  given : ∀ f : Field, f.group = G → f.given g = f.given g'

/-- Two candidates hold the same for each field. What else they hold, beside the groups and within
them, may differ. -/
structure SameFields (c c' : Json) : Prop where
  isObject : c.isObject = c'.isObject
  groups : ∀ G : Group, Option.Rel G.Same (c.member? G.name) (c'.member? G.name)

/-- A candidate holds nothing but null for a field, if it holds anything. -/
def Field.Unset (f : Field) (c : Json) : Prop :=
  ∀ g ∈ c.member? f.group.name, ∀ j ∈ f.given g, j.isNull

lemma Field.set?_of_unset {f : Field} {c : Json} (hc : f.Unset c) : f.set? c = none := by
  unfold set?
  split
  · exact Option.bind_eq_none_iff.mpr fun g hg => value?_eq_none (hc g hg)
  · rfl

lemma Field.set?_of_not_wellTyped (f : Field) {c : Json} (hc : ¬ WellTyped c) : f.set? c = none :=
  if_neg hc

lemma Group.Same.wellTyped_iff {G : Group} {g g' : Json} (h : G.Same g g') :
    G.WellTyped g ↔ G.WellTyped g' := by
  refine and_congr (by rw [h.isObject]) (forall₂_congr fun f hf => ?_)
  rw [Field.Fits, Field.Fits, h.given f hf]

lemma SameFields.wellTyped_iff {c c' : Json} (h : SameFields c c') :
    WellTyped c ↔ WellTyped c' := by
  refine and_congr (by rw [h.isObject]) (forall_congr' fun G => ?_)
  have hG := h.groups G
  generalize c.member? G.name = a, c'.member? G.name = b at hG
  cases hG with
  | none => simp
  | some hg => simp [hg.isNull, hg.wellTyped_iff]

/-- Candidates that hold the same for each field set each field to the same value. -/
lemma SameFields.set?_eq {c c' : Json} (h : SameFields c c') (f : Field) :
    f.set? c = f.set? c' := by
  unfold Field.set?
  refine if_congr h.wellTyped_iff ?_ rfl
  have hG := h.groups f.group
  generalize c.member? f.group.name = a, c'.member? f.group.name = b at hG
  cases hG with
  | none => rfl
  | some hg => simp only [Option.bind_some, Field.value?, hg.given f rfl]

/-- Candidates with the same groups differ in unknown members only. -/
lemma SameFields.of_groups {c c' : Json} (hobj : c.isObject = c'.isObject)
    (h : ∀ G : Group, c.member? G.name = c'.member? G.name) : SameFields c c' := by
  refine ⟨hobj, fun G => ?_⟩
  rw [h G]
  cases c'.member? G.name with
  | none => exact .none
  | some g => exact .some ⟨rfl, rfl, fun _ _ => rfl⟩

/-- A field that no candidate sets is at most normalized. -/
lemma read_merge_of_set?_eq_none {f : Field} {payload : Json} {sectionName : String}
    (hp : f.set? payload = none) (hc : ∀ c ∈ payload.member? sectionName, f.set? c = none)
    (s : Settings) : f.read (s.merge payload sectionName) = f.normal (f.read s) := by
  rw [read_merge, Option.bind_eq_none_iff.mpr hc, hp]
  rfl

/-- **A merge goes field by field, and the section goes first.** A field takes the normal form of
the value that the section sets it to, or else of the value that the payload itself sets it to, or
else of the value before. A candidate that is not well typed sets nothing, so a payload without a
well-typed candidate at most normalizes. What candidates hold beside the fields does not matter, and
a field that is absent or null in both candidates keeps its value. A field takes the JSON values
that stand for its values, and no others.

**Proof sketch.** The first part is `Settings.read_merge`. The others follow from it, since settings
are known by their fields and each assumption determines what `Settings.Field.set?` gives. -/
theorem merge_fieldwise (s : Settings) (payload : Json) (sectionName : String) :
    (∀ f : Field, f.read (s.merge payload sectionName) =
      f.normal ((((payload.member? sectionName).bind f.set?).or (f.set? payload)).getD
        (f.read s))) ∧
    (¬ WellTyped payload → (∀ c ∈ payload.member? sectionName, ¬ WellTyped c) →
      s.merge payload sectionName = s.normalize) ∧
    (∀ payload' : Json, SameFields payload payload' →
      Option.Rel SameFields (payload.member? sectionName) (payload'.member? sectionName) →
      s.merge payload sectionName = s.merge payload' sectionName) ∧
    (∀ f : Field, f.Unset payload → (∀ c ∈ payload.member? sectionName, f.Unset c) →
      f.read (s.merge payload sectionName) = f.normal (f.read s)) ∧
    ∀ (f : Field) (j : Json) (v : f.Value), f.decode? j = some v ↔ f.Denotes j v := by
  refine ⟨fun f => read_merge f s payload sectionName, fun hp hc => ?_, fun payload' hp hc => ?_,
    fun f hp hc => ?_, Field.decode?_eq_some_iff⟩
  · refine Field.ext_read fun f => ?_
    rw [Field.read_normalize]
    exact read_merge_of_set?_eq_none (f.set?_of_not_wellTyped hp)
      (fun c h => f.set?_of_not_wellTyped (hc c h)) s
  · refine Field.ext_read fun f => ?_
    have hsection : (payload.member? sectionName).bind f.set? =
        (payload'.member? sectionName).bind f.set? := by
      generalize payload.member? sectionName = a, payload'.member? sectionName = b at hc
      cases hc with
      | none => rfl
      | some h => exact h.set?_eq f
    rw [read_merge, read_merge, hsection, hp.set?_eq f]
  · exact read_merge_of_set?_eq_none (Field.set?_of_unset hp)
      (fun c h => Field.set?_of_unset (hc c h)) s

/-- A payload that sets the size limit itself and in its section. -/
def limitTwice : Json :=
  .object [("indexing", .object [("maxFileSizeKb", .nat 32), ("enabled", .null)]),
    ("mini", .object [("indexing", .object [("maxFileSizeKb", .nat 100000)])])]

/-- The same payload with one more member. -/
def limitTwiceAndMore : Json :=
  .object [("colour", .string "red"),
    ("indexing", .object [("maxFileSizeKb", .nat 32), ("enabled", .null)]),
    ("mini", .object [("indexing", .object [("maxFileSizeKb", .nat 100000)])])]

/-- The section's limit counts, clamped; the member that is null and the one that is unknown do not;
and a size in words takes all of its candidate with it. -/
theorem merge_fieldwise_limits :
    Field.maxFileSizeKb.read (merge {} limitTwice "mini") = 65536 ∧
      merge {} (.object [("indexing", .object [("maxFileSizeKb", .string "large"),
        ("enabled", .bool false)])]) "mini" = normalize {} ∧
      merge {} limitTwice "mini" = merge {} limitTwiceAndMore "mini" ∧
      Field.enabled.read (merge {} limitTwice "mini") = true :=
  ⟨((merge_fieldwise {} limitTwice "mini").1 .maxFileSizeKb).trans (by decide),
    (merge_fieldwise {} _ "mini").2.1 (by decide) (by decide),
    (merge_fieldwise {} limitTwice "mini").2.2.1 limitTwiceAndMore
      (.of_groups rfl fun G => by cases G <;> rfl) (.some (.of_groups rfl fun _ => rfl)),
    ((merge_fieldwise {} limitTwice "mini").2.2.2.1 .enabled (by unfold Field.Unset; decide)
      (by unfold Field.Unset; decide)).trans (by decide)⟩

end Settings

end CodeIndex
