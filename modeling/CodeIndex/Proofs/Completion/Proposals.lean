import Mathlib.Data.List.Forall2
import Mathlib.Tactic.Choose
import CodeIndex.Completion.Provider

set_option relaxedAutoImplicit false
set_option autoImplicit false

/-!
# Proposals

A completion is about one token: the first one around the caret or, if there is none and the
options let it fall back, the last one that ends before the caret. All proposals replace that token.
First come the names that can be seen from around it, if the grammar accepts a reference there, and
after them, if the options ask for them, the fixed spellings that it accepts. So neither option
takes a proposal away, and the fallback has no say where a token is around the caret.

## Main definitions

* `Token.StartsAt` — the token that a completion is about.
* `CompletionSupport.Sees` — the names that can be seen from around a token.
* `CompletionSupport.Spells` — the fixed spellings of candidates.
* `CompletionSupport.Additive` — what the proposals are, over all options.
* `CompletionSupport.BreaksOff` — the adapter breaks off while proposals are made.

## Main results

* `CompletionSupport.startToken?_eq_some_iff` — the token that is taken is that one.
* `CompletionSupport.additive_provide` — proposals are as described, whatever is missing.
* `CompletionSupport.breaksOff_iff` — there are no proposals exactly if the adapter breaks off.
-/

namespace CodeIndex

/-! ## Numbers in ascending order -/

lemma mem_insertAscending {n m : Nat} {ns : List Nat} :
    m ∈ insertAscending n ns ↔ m = n ∨ m ∈ ns := by
  induction ns with
  | nil => simp [insertAscending]
  | cons k ns ih =>
    unfold insertAscending
    split
    · simp
    · split
      · next heq => simp [heq]
      · simp [ih, or_left_comm]

lemma pairwise_insertAscending {ns : List Nat} (h : ns.Pairwise (· < ·)) (n : Nat) :
    (insertAscending n ns).Pairwise (· < ·) := by
  induction ns with
  | nil => exact List.pairwise_singleton _ _
  | cons k ns ih =>
    obtain ⟨hk, hns⟩ := List.pairwise_cons.1 h
    unfold insertAscending
    split
    · next hlt =>
      refine List.pairwise_cons.2 ⟨fun m hm => ?_, h⟩
      rcases List.mem_cons.1 hm with rfl | hm
      · exact hlt
      · exact Nat.lt_trans hlt (hk m hm)
    · split
      · exact h
      · refine List.pairwise_cons.2 ⟨fun m hm => ?_, ih hns⟩
        rcases mem_insertAscending.1 hm with rfl | hm
        · omega
        · exact hk m hm

lemma mem_ascending {n : Nat} {ns : List Nat} : n ∈ ascending ns ↔ n ∈ ns := by
  induction ns with
  | nil => rfl
  | cons m ns ih =>
    show n ∈ insertAscending m (ascending ns) ↔ _
    rw [mem_insertAscending, ih, List.mem_cons]

lemma pairwise_ascending (ns : List Nat) : (ascending ns).Pairwise (· < ·) := by
  induction ns with
  | nil => exact List.Pairwise.nil
  | cons m ns ih => exact pairwise_insertAscending ih m

/-! ## The token -/

/-- The token that a completion is about: the first one around the point or, with the fallback and
if there is none, the last one of the stream that ends before it. -/
inductive Token.StartsAt (tokens : List Token) (p : Point) (fallback : Bool) (token : Token) :
    Prop where
  | around (before after : List Token) (split : tokens = before ++ token :: after)
      (covers : token.span.containsPoint p = true)
      (first : ∀ t ∈ before, t.span.containsPoint p = false)
  | behind (before after : List Token) (allowed : fallback = true)
      (uncovered : ∀ t ∈ tokens, t.span.containsPoint p = false)
      (split : tokens = before ++ token :: after) (ends : token.span.stop < p)
      (last : ∀ t ∈ after, ¬ t.span.stop < p)

namespace Token

variable {tokens : List Token} {p : Point} {token : Token}

lemma current?_eq_none_iff :
    current? tokens p = none ↔ ∀ t ∈ tokens, t.span.containsPoint p = false := by
  simp only [current?, List.find?_eq_none, Bool.not_eq_true]

lemma current?_eq_some_iff :
    current? tokens p = some token ↔ ∃ before after, tokens = before ++ token :: after ∧
      token.span.containsPoint p = true ∧ ∀ t ∈ before, t.span.containsPoint p = false := by
  simp only [current?, List.find?_eq_some_iff_append, Bool.not_eq_true']
  grind

lemma previous?_eq_some_iff :
    previous? tokens p = some token ↔ ∃ before after, tokens = before ++ token :: after ∧
      token.span.stop < p ∧ ∀ t ∈ after, ¬ t.span.stop < p := by
  simp only [previous?, List.find?_eq_some_iff_append, Bool.not_eq_true', decide_eq_true_eq,
    decide_eq_false_iff_not]
  constructor
  · rintro ⟨hends, after, before, hsplit, hlast⟩
    refine ⟨before.reverse, after.reverse, ?_, hends, fun t ht => hlast t (List.mem_reverse.1 ht)⟩
    rw [← List.reverse_reverse tokens, hsplit]
    simp
  · rintro ⟨before, after, rfl, hends, hlast⟩
    exact ⟨hends, after.reverse, before.reverse, by simp,
      fun t ht => hlast t (List.mem_reverse.1 ht)⟩

end Token

namespace CompletionSupport

/-- The token that is taken is the one that the completion is about. -/
theorem startToken?_eq_some_iff {tokens : List Token} {p : Point} {options : CompletionOptions}
    {token : Token} :
    startToken? tokens p options = some token ↔
      Token.StartsAt tokens p options.previousTokenFallback token := by
  unfold startToken?
  constructor
  · intro h
    split at h
    · next hcurrent =>
      obtain rfl := Option.some.inj h
      obtain ⟨before, after, hsplit, hcovers, hfirst⟩ := Token.current?_eq_some_iff.1 hcurrent
      exact .around before after hsplit hcovers hfirst
    · next hnone =>
      split at h
      · next hallowed =>
        obtain ⟨before, after, hsplit, hends, hlast⟩ := Token.previous?_eq_some_iff.1 h
        exact .behind before after hallowed (Token.current?_eq_none_iff.1 hnone) hsplit hends hlast
      · cases h
  · rintro (⟨before, after, hsplit, hcovers, hfirst⟩ |
      ⟨before, after, hallowed, huncovered, hsplit, hends, hlast⟩)
    · rw [Token.current?_eq_some_iff.2 ⟨before, after, hsplit, hcovers, hfirst⟩]
    · rw [Token.current?_eq_none_iff.2 huncovered, if_pos hallowed]
      exact Token.previous?_eq_some_iff.2 ⟨before, after, hsplit, hends, hlast⟩

/-! ## Names and spellings -/

variable (support : CompletionSupport)

/-- The names that can be seen from around a token are those that the scope reports for the node
which the look-up of the token finds in the tree of the file. There are none if there is no tree,
no such node or no report. -/
inductive Sees (file : FileState) (token : Token) : List String → Prop where
  | reported {root node : Node} {names : List String} (tree : file.root = some root)
      (found : root.findAround token.span = some node)
      (report : support.scope root node = .ok (some names)) : Sees file token names
  | nothing (missing : ∀ root node names, file.root = some root →
      root.findAround token.span = some node → support.scope root node ≠ .ok (some names)) :
      Sees file token []

/-- The fixed spellings of candidates: one for each token kind among them that is not ignored and
has one, in ascending order of the kinds. -/
def Spells (c : Candidates) (spellings : List String) : Prop :=
  ∃ kinds : List Nat, kinds.Pairwise (· < ·) ∧
    (∀ k, k ∈ kinds ↔
      k ∈ c.tokens ∧ k ∉ support.ignoredTokens ∧
        ∃ spelling, support.literalName k = .ok (some spelling)) ∧
    List.Forall₂ (fun k spelling => support.literalName k = .ok (some spelling)) kinds spellings

variable {support}

lemma sees_of_visibleNames {file : FileState} {token : Token} {names : List String}
    (h : support.visibleNames file token = .ok names) : support.Sees file token names := by
  unfold visibleNames at h
  split at h
  · next hroot =>
    obtain rfl := Except.ok.inj h
    refine .nothing fun root node names htree => ?_
    rw [hroot] at htree
    cases htree
  · next root hroot =>
    split at h
    · next hnone =>
      obtain rfl := Except.ok.inj h
      refine .nothing fun root' node names htree hfound => ?_
      obtain rfl := Option.some.inj (hroot.symm.trans htree)
      rw [hnone] at hfound
      cases hfound
    · next node hnode =>
      rcases hscope : support.scope root node with fault | _ | reported
      · rw [hscope] at h
        cases h
      · rw [hscope] at h
        obtain rfl := Except.ok.inj h
        refine .nothing fun root' node' names htree hfound => ?_
        obtain rfl := Option.some.inj (hroot.symm.trans htree)
        obtain rfl := Option.some.inj (hnode.symm.trans hfound)
        simp [hscope]
      · rw [hscope] at h
        obtain rfl := Except.ok.inj h
        exact .reported hroot hnode hscope

/-- The names in sight fail exactly if the scope does, for the node around the token. -/
lemma isOk_visibleNames_eq_false_iff {file : FileState} {token : Token} :
    (support.visibleNames file token).isOk = false ↔ ∃ root node fault,
      file.root = some root ∧ root.findAround token.span = some node ∧
        support.scope root node = .error fault := by
  unfold visibleNames
  cases hroot : file.root with
  | none => simp [Except.isOk, Except.toBool]
  | some root =>
    cases hnode : root.findAround token.span with
    | none => simp [hnode, Except.isOk, Except.toBool]
    | some node =>
      cases hscope : support.scope root node <;>
        simp [hnode, hscope, Except.map, Except.isOk, Except.toBool]

/-- What is left of a list by a partial function comes from the members at which it is defined. -/
lemma forall₂_filterMap {α β : Type} (f : α → Option β) (xs : List α) :
    List.Forall₂ (fun x y => f x = some y) (xs.filter fun x => (f x).isSome) (xs.filterMap f) := by
  induction xs with
  | nil => exact .nil
  | cons x xs ih =>
    cases hx : f x with
    | none => simpa [hx] using ih
    | some y => simpa [hx] using ih

/-- The fixed spelling of a token kind, if the collector has one for it. -/
def spelling? (support : CompletionSupport) (k : Nat) : Option String :=
  (support.literalName k).toOption.join

lemma spelling?_eq_some_iff {k : Nat} {spelling : String} :
    support.spelling? k = some spelling ↔ support.literalName k = .ok (some spelling) := by
  unfold spelling?
  rcases support.literalName k with fault | _ | found <;> simp [Except.toOption]

lemma mem_proposedKinds {c : Candidates} {k : Nat} :
    k ∈ support.proposedKinds c ↔ k ∈ c.tokens ∧ k ∉ support.ignoredTokens := by
  simp [proposedKinds, mem_ascending]

/-- The spellings fail exactly if the collector does for one of the kinds. -/
lemma isOk_spellings_eq_false_iff {ks : List Nat} :
    (spellings support.literalName ks).isOk = false ↔
      ∃ k ∈ ks, ∃ fault, support.literalName k = .error fault := by
  induction ks with
  | nil => simp [spellings, Except.isOk, Except.toBool]
  | cons k ks ih =>
    unfold spellings
    rw [List.exists_mem_cons_iff, ← ih]
    rcases hk : support.literalName k with fault | _ | spelling
    · simp [Except.isOk, Except.toBool]
    · simp
    · cases spellings support.literalName ks <;> simp [Except.map, Except.isOk, Except.toBool]

/-- If it does for none of them, they are the spellings of the kinds that have one. -/
lemma spellings_eq {ks : List Nat}
    (h : ∀ k ∈ ks, ∃ found, support.literalName k = .ok found) :
    spellings support.literalName ks = .ok (ks.filterMap support.spelling?) := by
  induction ks with
  | nil => rfl
  | cons k ks ih =>
    obtain ⟨found, hk⟩ := h k List.mem_cons_self
    unfold spellings
    rw [ih fun k hk => h k (List.mem_cons_of_mem _ hk), List.filterMap_cons, spelling?, hk]
    cases found <;> rfl

lemma spells_proposedKinds (c : Candidates) :
    support.Spells c ((support.proposedKinds c).filterMap support.spelling?) := by
  refine ⟨_, ?_, fun k => ?_, List.Forall₂.imp (fun _ _ => spelling?_eq_some_iff.1)
    (forall₂_filterMap support.spelling? _)⟩
  · exact ((pairwise_ascending c.tokens).filter _).filter _
  · rw [List.mem_filter, mem_proposedKinds, and_assoc, Option.isSome_iff_exists]
    simp only [spelling?_eq_some_iff]

/-! ## Proposals -/

/-- Of a file, the proposals from a stream of tokens depend on the tree only. -/
lemma propose_congr {file file' : FileState} (h : file.root = file'.root) (tokens : List Token)
    (p : Point) (options : CompletionOptions) :
    support.propose file tokens p options = support.propose file' tokens p options := by
  unfold propose items names visibleNames
  rw [h]

/-- Proposals are made from the tokens and the tree of the file; the cache has no other part. -/
lemma provide_eq_bind (file : FileState) (p : Point) (options : CompletionOptions) :
    (support.provide file p options).2 =
      (file.tokenized support.tokenize).2.bind fun tokens =>
        support.propose file tokens p options := by
  have htree : (file.tokenized support.tokenize).1.root = file.root := by
    unfold FileState.tokenized
    cases file.tokens with
    | some tokens => rfl
    | none => cases support.tokenize file.text <;> rfl
  unfold provide
  generalize file.tokenized support.tokenize = outcome at htree ⊢
  rcases outcome with ⟨file', fault | tokens⟩
  · rfl
  · exact propose_congr htree tokens p options

lemma propose_of_none {file : FileState} {tokens : List Token} {p : Point}
    {options : CompletionOptions} (h : startToken? tokens p options = none) :
    support.propose file tokens p options = .ok [] := by
  rw [propose, h]

lemma propose_of_some {file : FileState} {tokens : List Token} {p : Point}
    {options : CompletionOptions} {token : Token} {found : Option Candidates}
    (h : startToken? tokens p options = some token)
    (hfound : support.collect tokens token.index = .ok found) :
    support.propose file tokens p options =
      found.elim (.ok []) (support.items file token options) := by
  rw [propose, h]
  dsimp only
  rw [hfound]
  cases found <;> rfl

/-- Neither the tokenizer nor the collector nor the scope breaks off. -/
structure Total (support : CompletionSupport) : Prop where
  tokenize : ∀ text, ∃ tokens, support.tokenize text = .ok tokens
  collect : ∀ tokens caret, ∃ found, support.collect tokens caret = .ok found
  literalName : ∀ k, ∃ found, support.literalName k = .ok found
  scope : ∀ root node, ∃ report, support.scope root node = .ok report

lemma Total.exists_tokens (h : support.Total) (file : FileState) :
    ∃ tokens, (file.tokenized support.tokenize).2 = .ok tokens := by
  unfold FileState.tokenized
  cases file.tokens with
  | some tokens => exact ⟨tokens, rfl⟩
  | none =>
    obtain ⟨tokens, htokens⟩ := h.tokenize file.text
    exact ⟨tokens, by simp only [htokens]⟩

/-- What is proposed at a point of a file with certain tokens, over all options. -/
structure Additive (support : CompletionSupport) (file : FileState) (tokens : List Token)
    (p : Point) (answer : CompletionOptions → List CompletionItem) : Prop where
  /-- Without the fallback, nothing is proposed unless a token is around the point. -/
  uncovered : (∀ t ∈ tokens, t.span.containsPoint p = false) →
    ∀ literals, answer ⟨false, literals⟩ = []
  /-- If a token is around the point, the fallback makes no difference. -/
  covered : (∃ t ∈ tokens, t.span.containsPoint p = true) →
    ∀ literals, answer ⟨true, literals⟩ = answer ⟨false, literals⟩
  /-- Nothing is proposed without a token to start from for which there are candidates. -/
  unfounded : ∀ options, (∀ token c, Token.StartsAt tokens p options.previousTokenFallback token →
    support.collect tokens token.index ≠ .ok (some c)) → answer options = []
  /-- With one, the names in sight are proposed if a rule among the candidates is one of references,
  and the fixed spellings follow if they are asked for. -/
  founded : ∀ fallback token c, Token.StartsAt tokens p fallback token →
    support.collect tokens token.index = .ok (some c) →
      ∃ names spellings,
        (if ∃ rule ∈ c.rules, rule ∈ support.referenceRules then support.Sees file token names
          else names = []) ∧
        support.Spells c spellings ∧
        answer ⟨fallback, false⟩ = names.map (token.item .variable) ∧
        answer ⟨fallback, true⟩ = answer ⟨fallback, false⟩ ++ spellings.map (token.item .keyword)
  /-- Every proposal puts its label in the place of the token. -/
  edits : ∀ options token, Token.StartsAt tokens p options.previousTokenFallback token →
    ∀ item ∈ answer options, item.range = token.span.toEditor ∧ item.newText = item.label

lemma any_referenceRules_iff {c : Candidates} :
    c.rules.any support.referenceRules.contains = true ↔
      ∃ rule ∈ c.rules, rule ∈ support.referenceRules := by
  simp only [List.any_eq_true, List.contains_iff_mem]

/-- The names that are proposed, if the scope does not break off. -/
lemma Total.exists_names (h : support.Total) (file : FileState) (token : Token) (c : Candidates) :
    ∃ names, support.names file token c = .ok names ∧
      if ∃ rule ∈ c.rules, rule ∈ support.referenceRules then support.Sees file token names
      else names = [] := by
  unfold CompletionSupport.names
  by_cases hreference : ∃ rule ∈ c.rules, rule ∈ support.referenceRules
  · rw [if_pos (any_referenceRules_iff.2 hreference)]
    cases hnames : support.visibleNames file token with
    | ok names => exact ⟨names, rfl, by rw [if_pos hreference]; exact sees_of_visibleNames hnames⟩
    | error fault =>
      obtain ⟨root, node, fault, -, -, hscope⟩ :=
        isOk_visibleNames_eq_false_iff.1 (by rw [hnames]; rfl)
      obtain ⟨report, hreport⟩ := h.scope root node
      rw [hreport] at hscope
      cases hscope
  · rw [if_neg fun hany => hreference (any_referenceRules_iff.1 hany)]
    exact ⟨[], rfl, by rw [if_neg hreference]⟩

/-- The proposals for a token and candidates: names if a rule is one of references, then spellings
if they are asked for. -/
lemma Total.items_eq (h : support.Total) (file : FileState) (token : Token) (c : Candidates) :
    ∃ names spellings,
      (if ∃ rule ∈ c.rules, rule ∈ support.referenceRules then support.Sees file token names
        else names = []) ∧
      support.Spells c spellings ∧
      ∀ options, support.items file token options c =
        .ok (names.map (token.item .variable) ++
          if options.tokenLiterals then spellings.map (token.item .keyword) else []) := by
  obtain ⟨names, hnames, hsees⟩ := h.exists_names file token c
  refine ⟨names, _, hsees, spells_proposedKinds c, fun options => ?_⟩
  have hspellings : spellings support.literalName (support.proposedKinds c) = _ :=
    spellings_eq fun k _ => h.literalName k
  unfold items literals
  rw [hnames, hspellings]
  cases options.tokenLiterals <;> rfl

lemma Total.additive (h : support.Total) {file : FileState} {tokens : List Token} {p : Point}
    {answer : CompletionOptions → List CompletionItem}
    (hanswer : ∀ options, support.propose file tokens p options = .ok (answer options)) :
    support.Additive file tokens p answer where
  uncovered hnone literals := by
    have hstart : startToken? tokens p ⟨false, literals⟩ = none := by
      rw [startToken?, Token.current?_eq_none_iff.2 hnone]
      rfl
    exact Except.ok.inj ((hanswer _).symm.trans (propose_of_none hstart))
  covered hcovered literals := by
    have hstart :
        startToken? tokens p ⟨true, literals⟩ = startToken? tokens p ⟨false, literals⟩ := by
      unfold startToken?
      cases hcurrent : Token.current? tokens p with
      | some token => rfl
      | none =>
        obtain ⟨t, ht, hcovers⟩ := hcovered
        rw [Token.current?_eq_none_iff.1 hcurrent t ht] at hcovers
        cases hcovers
    have hpropose : support.propose file tokens p ⟨true, literals⟩ =
        support.propose file tokens p ⟨false, literals⟩ := by
      unfold propose
      rw [hstart]
      rfl
    exact Except.ok.inj ((hanswer _).symm.trans (hpropose.trans (hanswer _)))
  unfounded options hunfounded := by
    refine Except.ok.inj ((hanswer options).symm.trans ?_)
    cases hstart : startToken? tokens p options with
    | none => exact propose_of_none hstart
    | some token =>
      obtain ⟨found, hfound⟩ := h.collect tokens token.index
      rw [propose_of_some hstart hfound]
      cases found with
      | none => rfl
      | some c => exact absurd hfound (hunfounded token c (startToken?_eq_some_iff.1 hstart))
  founded fallback token c hstarts hc := by
    obtain ⟨names, spellings, hnames, hspellings, heq⟩ := h.items_eq file token c
    have hitems : ∀ literals, answer ⟨fallback, literals⟩ =
        names.map (token.item .variable) ++
          if literals then spellings.map (token.item .keyword) else [] := fun literals =>
      Except.ok.inj ((hanswer _).symm.trans
        ((propose_of_some (startToken?_eq_some_iff.2 hstarts) hc).trans (heq _)))
    refine ⟨names, spellings, hnames, hspellings, ?_, ?_⟩
    · rw [hitems]
      exact List.append_nil _
    · rw [hitems, hitems]
      exact congrArg (· ++ _) (List.append_nil _).symm
  edits options token hstarts item hitem := by
    obtain ⟨found, hfound⟩ := h.collect tokens token.index
    have hpropose := (hanswer options).symm.trans
      (propose_of_some (startToken?_eq_some_iff.2 hstarts) hfound)
    cases found with
    | none =>
      rw [Except.ok.inj hpropose] at hitem
      cases hitem
    | some c =>
      obtain ⟨names, spellings, -, -, heq⟩ := h.items_eq file token c
      rw [Except.ok.inj (hpropose.trans (heq options)), List.mem_append] at hitem
      have hmade : ∃ kind text, token.item kind text = item := by
        rcases hitem with hname | hliteral
        · obtain ⟨name, -, hname⟩ := List.mem_map.1 hname
          exact ⟨_, name, hname⟩
        · split at hliteral
          · obtain ⟨literal, -, hliteral⟩ := List.mem_map.1 hliteral
            exact ⟨_, literal, hliteral⟩
          · cases hliteral
      obtain ⟨kind, text, rfl⟩ := hmade
      exact ⟨rfl, rfl⟩

/-- **Options only add, and every proposal edits the one token.** If neither the tokenizer nor the
collector nor the scope breaks off, every request at a point of a file is answered. Without the
fallback and a token around the point the answer is empty, and with a token around it the fallback
makes no difference. The fixed spellings come after what is proposed without them. The proposals
themselves are the names in sight of the token, if a rule of references could stand there, and the
spellings that the grammar accepts there; each of them replaces the token by its label. -/
theorem additive_provide (h : support.Total) (file : FileState) (p : Point) :
    ∃ tokens answer, (file.tokenized support.tokenize).2 = .ok tokens ∧
      (∀ options, (support.provide file p options).2 = .ok (answer options)) ∧
      support.Additive file tokens p answer := by
  obtain ⟨tokens, htokens⟩ := h.exists_tokens file
  have hpropose : ∀ options, ∃ items, support.propose file tokens p options = .ok items := by
    intro options
    cases hstart : startToken? tokens p options with
    | none => exact ⟨[], propose_of_none hstart⟩
    | some token =>
      obtain ⟨found, hfound⟩ := h.collect tokens token.index
      rw [propose_of_some hstart hfound]
      cases found with
      | none => exact ⟨[], rfl⟩
      | some c =>
        obtain ⟨names, spellings, -, -, heq⟩ := h.items_eq file token c
        exact ⟨_, heq options⟩
  choose answer hanswer using hpropose
  refine ⟨tokens, answer, htokens, fun options => ?_, h.additive hanswer⟩
  rw [provide_eq_bind, htokens]
  exact hanswer options

/-- A stream in which the longer of two tokens comes before the shorter one that lies in it, and the
token that stands first in the text comes last. A reference and two spellings, one of them listed
twice, are accepted everywhere. -/
def caretSupport : CompletionSupport where
  tokenize _ := .ok
    [⟨0, 1, "alpha", ⟨⟨1, 4⟩, ⟨1, 9⟩⟩⟩, ⟨1, 1, "al", ⟨⟨1, 4⟩, ⟨1, 6⟩⟩⟩,
      ⟨2, 2, "def", ⟨⟨1, 0⟩, ⟨1, 3⟩⟩⟩]
  collect _ _ := .ok (some ⟨[7, 8], [4, 2, 3, 4, 5]⟩)
  literalName k := .ok (if k = 4 then some "use" else if k = 2 then some "def" else none)
  scope := scopeless
  referenceRules := [8]
  ignoredTokens := [5]

/-- The file of the stream, with one definition. -/
def caretFile : FileState :=
  ⟨⟨"file:///a"⟩, "def alpha", none,
    some (.mk ⟨0, "Def", some ⟨⟨1, 0⟩, ⟨1, 9⟩⟩, some "alpha", .ok .variable, []⟩ []), [], none⟩

/-- Within both of the overlapping tokens the first one of the stream is replaced. Behind all
tokens, the fallback takes the last one of the stream, although another one ends later. -/
theorem additive_provide_caret :
    caretSupport.Total ∧
      (caretSupport.provide caretFile ⟨1, 5⟩ ⟨false, true⟩).2 =
        .ok [⟨"alpha", .variable, ⟨⟨0, 4⟩, ⟨0, 9⟩⟩, "alpha"⟩,
          ⟨"def", .keyword, ⟨⟨0, 4⟩, ⟨0, 9⟩⟩, "def"⟩,
          ⟨"use", .keyword, ⟨⟨0, 4⟩, ⟨0, 9⟩⟩, "use"⟩] ∧
      (caretSupport.provide caretFile ⟨2, 0⟩ ⟨true, false⟩).2 =
        .ok [⟨"alpha", .variable, ⟨⟨0, 0⟩, ⟨0, 3⟩⟩, "alpha"⟩] ∧
      ∀ p, ∃ tokens answer,
        (caretFile.tokenized caretSupport.tokenize).2 = .ok tokens ∧
          (∀ options, (caretSupport.provide caretFile p options).2 = .ok (answer options)) ∧
          caretSupport.Additive caretFile tokens p answer := by
  have htotal : caretSupport.Total :=
    ⟨fun _ => ⟨_, rfl⟩, fun _ _ => ⟨_, rfl⟩, fun _ => ⟨_, rfl⟩, fun _ _ => ⟨_, rfl⟩⟩
  exact ⟨htotal, by rfl, by rfl, additive_provide htotal caretFile⟩

/-! ## When the adapter breaks off -/

variable (support) in
/-- The adapter breaks off while proposals at a point of a file are made. -/
inductive BreaksOff (file : FileState) (p : Point) (options : CompletionOptions) : Prop where
  /-- The tokenizer, on the text of the file. -/
  | tokenizer {fault : Fault} (htokens : support.tokenize file.text = .error fault)
  /-- The collector, on the candidates at the token that the proposals start from. -/
  | collector {tokens : List Token} {token : Token} {fault : Fault}
      (htokens : support.tokenize file.text = .ok tokens)
      (htoken : startToken? tokens p options = some token)
      (hcollect : support.collect tokens token.index = .error fault)
  /-- The scope, on the node around that token, where a reference could stand. -/
  | scope {tokens : List Token} {token : Token} {c : Candidates} {root node : Node} {fault : Fault}
      (htokens : support.tokenize file.text = .ok tokens)
      (htoken : startToken? tokens p options = some token)
      (hcollect : support.collect tokens token.index = .ok (some c))
      (hrules : ∃ rule ∈ c.rules, rule ∈ support.referenceRules)
      (hroot : file.root = some root) (hnode : root.findAround token.span = some node)
      (hscope : support.scope root node = .error fault)
  /-- The collector, on the fixed spelling of a token kind that could stand there, where such
  spellings are asked for. -/
  | spelling {tokens : List Token} {token : Token} {c : Candidates} {k : Nat} {fault : Fault}
      (htokens : support.tokenize file.text = .ok tokens)
      (htoken : startToken? tokens p options = some token)
      (hcollect : support.collect tokens token.index = .ok (some c))
      (hliterals : options.tokenLiterals = true) (hkind : k ∈ c.tokens)
      (hproposed : k ∉ support.ignoredTokens) (hspelling : support.literalName k = .error fault)

/-- The proposals for a token fail exactly if its names or its spellings do. -/
lemma isOk_items_eq_false_iff {file : FileState} {token : Token} {options : CompletionOptions}
    {c : Candidates} :
    (support.items file token options c).isOk = false ↔
      (support.names file token c).isOk = false ∨ (support.literals options c).isOk = false := by
  unfold items
  cases support.names file token c <;> cases support.literals options c <;>
    simp [Except.bind, Except.map, Except.isOk, Except.toBool]

lemma isOk_names_eq_false_iff {file : FileState} {token : Token} {c : Candidates} :
    (support.names file token c).isOk = false ↔
      (∃ rule ∈ c.rules, rule ∈ support.referenceRules) ∧ ∃ root node fault,
        file.root = some root ∧ root.findAround token.span = some node ∧
          support.scope root node = .error fault := by
  unfold CompletionSupport.names
  rw [← any_referenceRules_iff, ← isOk_visibleNames_eq_false_iff]
  split
  · next hany => simp [hany]
  · next hnone => simp [hnone, Except.isOk, Except.toBool]

lemma isOk_literals_eq_false_iff {options : CompletionOptions} {c : Candidates} :
    (support.literals options c).isOk = false ↔ options.tokenLiterals = true ∧
      ∃ k, (k ∈ c.tokens ∧ k ∉ support.ignoredTokens) ∧
        ∃ fault, support.literalName k = .error fault := by
  unfold literals
  simp only [← mem_proposedKinds, ← isOk_spellings_eq_false_iff]
  split
  · next hasked => simp [hasked]
  · next hnone => simp [hnone, Except.isOk, Except.toBool]

/-- There are no proposals exactly if the adapter breaks off. -/
lemma breaksOff_iff {file : FileState} {p : Point} {options : CompletionOptions} :
    ((support.tokenize file.text).bind fun tokens =>
        support.propose file tokens p options).isOk = false ↔
      support.BreaksOff file p options := by
  constructor
  · intro h
    cases htokens : support.tokenize file.text with
    | error fault => exact .tokenizer htokens
    | ok tokens =>
      rw [htokens] at h
      change (support.propose file tokens p options).isOk = false at h
      cases htoken : startToken? tokens p options with
      | none =>
        rw [propose_of_none htoken] at h
        cases h
      | some token =>
        rcases hcollect : support.collect tokens token.index with fault | _ | c
        · exact .collector htokens htoken hcollect
        · rw [propose_of_some htoken hcollect] at h
          cases h
        · rw [propose_of_some htoken hcollect] at h
          rcases isOk_items_eq_false_iff.1 h with hnames | hliterals
          · obtain ⟨hrules, root, node, fault, hroot, hnode, hscope⟩ :=
              isOk_names_eq_false_iff.1 hnames
            exact .scope htokens htoken hcollect hrules hroot hnode hscope
          · obtain ⟨hasked, k, ⟨hkind, hproposed⟩, fault, hspelling⟩ :=
              isOk_literals_eq_false_iff.1 hliterals
            exact .spelling htokens htoken hcollect hasked hkind hproposed hspelling
  · have hitems : ∀ {tokens : List Token} {token : Token} {c : Candidates},
        support.tokenize file.text = .ok tokens → startToken? tokens p options = some token →
        support.collect tokens token.index = .ok (some c) →
        (support.items file token options c).isOk = false →
          ((support.tokenize file.text).bind fun tokens =>
            support.propose file tokens p options).isOk = false := by
      intro tokens token c htokens htoken hcollect hfails
      rw [htokens]
      change (support.propose file tokens p options).isOk = false
      rw [propose_of_some htoken hcollect]
      exact hfails
    rintro (htokens | ⟨htokens, htoken, hcollect⟩ |
      ⟨htokens, htoken, hcollect, hrules, hroot, hnode, hscope⟩ |
      ⟨htokens, htoken, hcollect, hasked, hkind, hproposed, hspelling⟩)
    · rw [htokens]
      rfl
    · rw [htokens]
      change (support.propose file _ p options).isOk = false
      rw [propose, htoken]
      dsimp only
      rw [hcollect]
      rfl
    · exact hitems htokens htoken hcollect (isOk_items_eq_false_iff.2
        (.inl (isOk_names_eq_false_iff.2 ⟨hrules, _, _, _, hroot, hnode, hscope⟩)))
    · exact hitems htokens htoken hcollect (isOk_items_eq_false_iff.2
        (.inr (isOk_literals_eq_false_iff.2 ⟨hasked, _, ⟨hkind, hproposed⟩, _, hspelling⟩)))

end CompletionSupport

end CodeIndex
