import Unparsing.Proofs.Extraction

/-!
# Proofs/Derivation/Wrapping — what wrappers put into a parser change

`Parser.WrapsTo` puts wrappers into a parser, around the parser and around what is inside it.  What
a parser yields and whether a row throws it away are read through any number of wrappers.  The
functions that derive an unparser take off one wrapper each, so they tell the same as long as no
wrapper stands directly inside another and those of token nodes are left alone
(`Parser.WellWrapped`, `Grammar.Transparent`).
-/

namespace Unparsing

namespace Parser

/-! ## Putting wrappers in -/

/-- The second parser is the first with wrappers put in.  The row of a transform or pick and the
separator of a list get none. -/
inductive WrapsTo : Parser → Parser → Prop
  | refl (p : Parser) : WrapsTo p p
  | wrap {p q : Parser} (id : ParserId) : WrapsTo p q → WrapsTo p (.dontSkip id q)
  | row {items items' : List Parser} (id id' : ParserId) : List.Forall₂ WrapsTo items items' →
      WrapsTo (.row id items) (.row id' items')
  | transform {items items' : List Parser} (id id' : ParserId) (node : NodeId)
      (rowId rowId' : ParserId) : List.Forall₂ WrapsTo items items' →
      WrapsTo (.transform id node rowId items) (.transform id' node rowId' items')
  | pick {items items' : List Parser} (id id' rowId rowId' : ParserId) (index : Nat) :
      List.Forall₂ WrapsTo items items' →
      WrapsTo (.pick id rowId items index) (.pick id' rowId' items' index)
  | list {p q : Parser} (id id' : ParserId) (node : NodeId) (separator : Option Parser) :
      WrapsTo p q → WrapsTo (.list id node p separator) (.list id' node q separator)
  | opt {p q : Parser} (id id' : ParserId) (tolerant : Bool) :
      WrapsTo p q → WrapsTo (.opt id p tolerant) (.opt id' q tolerant)
  | optBool {p q : Parser} (id id' : ParserId) (alternatives : BoolAlternatives) :
      WrapsTo p q → WrapsTo (.optBool id p alternatives) (.optBool id' q alternatives)
  | choice {branches branches' : List Parser} (id id' : ParserId) :
      List.Forall₂ WrapsTo branches branches' →
      WrapsTo (.choice id branches) (.choice id' branches')
  | predicate {p q : Parser} (id id' : ParserId) (property : String) :
      WrapsTo p q → WrapsTo (.predicate id p property) (.predicate id' q property)
  | dontSkip {p q : Parser} (id id' : ParserId) :
      WrapsTo p q → WrapsTo (.dontSkip id p) (.dontSkip id' q)

variable {p p' q : Parser} {items items' : List Parser}

/-- Induction on how wrappers are put in, with the items of a row pair by pair. -/
@[elab_as_elim]
theorem WrapsTo.induction {motive : ∀ p p' : Parser, p.WrapsTo p' → Prop}
    (refl : ∀ p, motive p p (.refl p))
    (wrap : ∀ {p q} id (h : p.WrapsTo q), motive p q h → motive p (.dontSkip id q) (.wrap id h))
    (row : ∀ {items items'} id id' (hs : List.Forall₂ WrapsTo items items'),
      List.Forall₂ (fun p q => ∃ h, motive p q h) items items' →
      motive (.row id items) (.row id' items') (.row id id' hs))
    (transform : ∀ {items items'} id id' node rowId rowId' (hs : List.Forall₂ WrapsTo items items'),
      List.Forall₂ (fun p q => ∃ h, motive p q h) items items' →
      motive (.transform id node rowId items) (.transform id' node rowId' items')
        (.transform id id' node rowId rowId' hs))
    (pick : ∀ {items items'} id id' rowId rowId' index (hs : List.Forall₂ WrapsTo items items'),
      List.Forall₂ (fun p q => ∃ h, motive p q h) items items' →
      motive (.pick id rowId items index) (.pick id' rowId' items' index)
        (.pick id id' rowId rowId' index hs))
    (list : ∀ {p q} id id' node separator (h : p.WrapsTo q), motive p q h →
      motive (.list id node p separator) (.list id' node q separator)
        (.list id id' node separator h))
    (opt : ∀ {p q} id id' tolerant (h : p.WrapsTo q), motive p q h →
      motive (.opt id p tolerant) (.opt id' q tolerant) (.opt id id' tolerant h))
    (optBool : ∀ {p q} id id' alternatives (h : p.WrapsTo q), motive p q h →
      motive (.optBool id p alternatives) (.optBool id' q alternatives)
        (.optBool id id' alternatives h))
    (choice : ∀ {branches branches'} id id' (hs : List.Forall₂ WrapsTo branches branches'),
      List.Forall₂ (fun p q => ∃ h, motive p q h) branches branches' →
      motive (.choice id branches) (.choice id' branches') (.choice id id' hs))
    (predicate : ∀ {p q} id id' property (h : p.WrapsTo q), motive p q h →
      motive (.predicate id p property) (.predicate id' q property) (.predicate id id' property h))
    (dontSkip : ∀ {p q} id id' (h : p.WrapsTo q), motive p q h →
      motive (.dontSkip id p) (.dontSkip id' q) (.dontSkip id id' h))
    (h : p.WrapsTo p') : motive p p' h := by
  have pairs {items items' : List Parser} (hs : List.Forall₂ WrapsTo items items')
      (ih : ∀ q ∈ items', ∀ {p} (h : p.WrapsTo q), motive p q h) :
      List.Forall₂ (fun p q => ∃ h, motive p q h) items items' := by
    induction hs with
    | nil => exact .nil
    | cons head _ tail =>
      rw [List.forall_mem_cons] at ih
      exact .cons ⟨head, ih.1 head⟩ (tail ih.2)
  induction p' using Parser.induction generalizing p with
  | row id items ih => cases h with
    | refl => exact refl _
    | row _ _ hs => exact row _ _ hs (pairs hs ih)
  | transform id node rowId items ih => cases h with
    | refl => exact refl _
    | transform _ _ _ _ _ hs => exact transform _ _ _ _ _ hs (pairs hs ih)
  | pick id rowId items index ih => cases h with
    | refl => exact refl _
    | pick _ _ _ _ _ hs => exact pick _ _ _ _ _ hs (pairs hs ih)
  | list id node element separator ih => cases h with
    | refl => exact refl _
    | list _ _ _ _ h => exact list _ _ _ _ h (ih h)
  | opt id inner tolerant ih => cases h with
    | refl => exact refl _
    | opt _ _ _ h => exact opt _ _ _ h (ih h)
  | optBool id inner alternatives ih => cases h with
    | refl => exact refl _
    | optBool _ _ _ h => exact optBool _ _ _ h (ih h)
  | choice id branches ih => cases h with
    | refl => exact refl _
    | choice _ _ hs => exact choice _ _ hs (pairs hs ih)
  | predicate id inner property ih => cases h with
    | refl => exact refl _
    | predicate _ _ _ h => exact predicate _ _ _ h (ih h)
  | dontSkip id inner ih => cases h with
    | refl => exact refl _
    | wrap _ h => exact wrap _ h (ih h)
    | dontSkip _ _ h => exact dontSkip _ _ h (ih h)
  | defer | token | null | skip | noBacktrack =>
    cases h
    exact refl _

/-! ## What is read through any number of wrappers -/

/-- Wrappers do not change whether a row throws the parser's result away. -/
theorem WrapsTo.discards_eq (h : p.WrapsTo p') : p'.discards = p.discards := by
  induction h using WrapsTo.induction with
  | row id id' hs ih =>
    have same := map_eq_of_forall₂ ih fun ⟨_, same⟩ => same
    have all (ps : List Parser) : ps.all discards = (ps.map discards).all fun b => b := by
      simp [List.all_map, Function.comp_def]
    rw [discards_row, discards_row, all, all, same]
  | wrap _ _ ih | opt _ _ _ _ ih | dontSkip _ _ _ ih => simpa only [discards] using ih
  | _ => rfl

/-- Wrappers do not change what the parser yields. -/
theorem WrapsTo.yieldWith_eq (ns : NodeTypes) (ofRule : RuleId → Yield) (h : p.WrapsTo p') :
    p'.yieldWith ns ofRule = p.yieldWith ns ofRule := by
  induction h using WrapsTo.induction with
  | pick id id' rowId rowId' index hs ih =>
    have same := congrArg (·[index]?) (map_eq_of_forall₂ ih fun ⟨_, same⟩ => same)
    have item (ps : List Parser) : (ps[index]?).elim .nothing (yieldWith ns ofRule) =
        ((ps.map (yieldWith ns ofRule))[index]?).getD .nothing := by
      rw [List.getElem?_map]
      cases ps[index]? <;> rfl
    rw [yieldWith, yieldWith, yieldNth_eq, yieldNth_eq, item, item, same]
  | choice id id' hs ih =>
    have same := map_eq_of_forall₂ ih fun ⟨_, same⟩ => same
    rw [yieldWith, yieldWith, yieldMerged_eq_foldl, yieldMerged_eq_foldl, same]
  | wrap _ _ ih | opt _ _ _ _ ih | dontSkip _ _ _ ih | predicate _ _ _ _ ih =>
    simpa only [yieldWith] using ih
  | _ => rfl

/-! ## One wrapper at a time -/

/-- Whether the parser is a transform with a wrapper among the items of its row. -/
def wrapsItem : Parser → Bool
  | transform _ _ _ items => items.any isDontSkip
  | _ => false

/-- A wrapper stays one. -/
theorem WrapsTo.isDontSkip_of_left (h : p.WrapsTo p') (wrapped : p.isDontSkip = true) :
    p'.isDontSkip = true := by
  cases h with
  | refl => exact wrapped
  | wrap | dontSkip => rfl
  | _ => cases wrapped

/-- The combinator stays the same under what is put around it. -/
theorem WrapsTo.kind_eq (h : p.WrapsTo p') (bare : p'.isDontSkip = false) : p'.kind = p.kind := by
  cases h with
  | wrap | dontSkip => cases bare
  | _ => rfl

/-- A wrapper that hides nothing has no wrapper under it. -/
theorem isDontSkip_inner_of_hidden {id : ParserId} (single : (dontSkip id p).hidden = []) :
    p.isDontSkip = false := by
  cases p with
  | dontSkip => simp [hidden_dontSkip, rewrapped?] at single
  | _ => rfl

/-- Where nothing is hidden in a parser, nothing is hidden in what it holds. -/
theorem hidden_of_mem_children (single : p.hidden = []) (hq : q ∈ p.children) : q.hidden = [] := by
  rw [hidden_eq, List.append_eq_nil_iff, List.flatMap_eq_nil_iff] at single
  exact single.2 q hq

/-- A parser is inside itself. -/
theorem mem_preorder_self (p : Parser) : p ∈ p.preorder := by
  rw [preorder_eq]
  exact List.mem_cons_self

/-- A parser without its wrapper is inside it. -/
theorem mem_preorder_unwrap (p : Parser) : p.unwrap ∈ p.preorder := by
  cases p with
  | dontSkip id inner =>
    rw [preorder_eq, List.mem_cons, List.mem_flatMap]
    exact .inr ⟨inner, List.mem_cons_self, inner.mem_preorder_self⟩
  | _ => exact mem_preorder_self _

/-- Under the outermost wrapper stand a parser and the same with wrappers inside. -/
theorem WrapsTo.unwrap (h : p.WrapsTo p') (single : p'.hidden = []) :
    p.unwrap.WrapsTo p'.unwrap ∧ p'.unwrap.isDontSkip = false := by
  have wrapper {id : ParserId} {q : Parser} (single : (Parser.dontSkip id q).hidden = []) :=
    isDontSkip_inner_of_hidden single
  cases h with
  | refl =>
    cases p with
    | dontSkip => exact ⟨.refl _, wrapper single⟩
    | _ => exact ⟨.refl _, rfl⟩
  | @wrap _ q id h =>
    refine ⟨?_, wrapper single⟩
    cases p with
    | dontSkip => exact absurd (h.isDontSkip_of_left rfl) (by simp [wrapper single])
    | _ => exact h
  | dontSkip id id' h => exact ⟨h, wrapper single⟩
  | row _ _ hs => exact ⟨.row _ _ hs, rfl⟩
  | transform _ _ _ _ _ hs => exact ⟨.transform _ _ _ _ _ hs, rfl⟩
  | pick _ _ _ _ _ hs => exact ⟨.pick _ _ _ _ _ hs, rfl⟩
  | list _ _ _ _ h => exact ⟨.list _ _ _ _ h, rfl⟩
  | opt _ _ _ h => exact ⟨.opt _ _ _ h, rfl⟩
  | optBool _ _ _ h => exact ⟨.optBool _ _ _ h, rfl⟩
  | choice _ _ hs => exact ⟨.choice _ _ hs, rfl⟩
  | predicate _ _ _ h => exact ⟨.predicate _ _ _ h, rfl⟩

/-- A transform of one token stays one if its items are left bare. -/
theorem WrapsTo.wrapsOneToken (h : p.WrapsTo p') (single : p'.isDontSkip = false)
    (bare : p'.wrapsItem = false) (one : p.wrapsOneToken = true) : p'.wrapsOneToken = true := by
  have kinds {items items' : List Parser} (hs : List.Forall₂ WrapsTo items items')
      (bare : items'.any isDontSkip = false) :
      (items'.filter (!·.isNoBacktrack)).map isToken =
        (items.filter (!·.isNoBacktrack)).map isToken := by
    induction hs with
    | nil => rfl
    | @cons p q _ _ head _ tail =>
      rw [List.any_cons, Bool.or_eq_false_iff] at bare
      have same := head.kind_eq bare.1
      have marker : q.isNoBacktrack = p.isNoBacktrack := by
        cases p <;> cases q <;> first | rfl | cases same
      have token : q.isToken = p.isToken := by
        cases p <;> cases q <;> first | rfl | cases same
      rw [List.filter_cons, List.filter_cons, marker]
      split
      · rw [List.map_cons, List.map_cons, token, tail bare.2]
      · exact tail bare.2
  have one_iff (id : ParserId) (node : NodeId) (rowId : ParserId) (items : List Parser) :
      (Parser.transform id node rowId items).wrapsOneToken = true ↔
        (items.filter (!·.isNoBacktrack)).map isToken = [true] := by
    rw [Parser.wrapsOneToken]
    split
    next q only => simp [only]
    next other =>
      refine iff_of_false Bool.false_ne_true fun only => ?_
      obtain ⟨q, only, -⟩ := List.map_eq_singleton_iff.mp only
      exact other q only
  cases h with
  | refl => exact one
  | wrap => cases single
  | transform id id' node rowId rowId' hs =>
    rw [one_iff] at one ⊢
    exact (kinds hs bare).trans one
  | _ => cases one

end Parser

/-! ## Computations that succeed where others do -/

namespace Interning

variable {α β : Type} {m m' : Interning α}

/-- Wherever `m` succeeds, so does `m'`, with the same result and the same table. -/
def Within (m m' : Interning α) : Prop := ∀ ⦃t a t'⦄, m t = .ok a t' → m' t = .ok a t'

/-- A computation does what it does. -/
theorem Within.refl (m : Interning α) : m.Within m := fun _ _ _ run => run

/-- A failure promises nothing. -/
theorem Within.throw (e : Problem) (m : Interning α) :
    Within (MonadExcept.throw e) m := fun _ _ _ run => nomatch run

/-- Two steps do what the steps of another computation do, one after the other. -/
theorem Within.bind {k k' : α → Interning β} (h : m.Within m') (hk : ∀ a, (k a).Within (k' a)) :
    Within (m >>= k) (m' >>= k') := fun t b t' run => by
  obtain ⟨a, s, first, rest⟩ := estate_bind_eq_ok.mp run
  exact estate_bind_eq_ok.mpr ⟨a, s, h first, hk a rest⟩

end Interning

namespace Grammar

open Unparsing.Parser Interning

variable {g : Grammar} {p p' q : Parser} {items items' : List Parser} {n : NodeId}

/-- Wrappers stand where a derivation looks through them: none directly inside another, and none
inside the row of a token node. -/
structure WellWrapped (g : Grammar) (p : Parser) : Prop where
  single : p.hidden = []
  bare : ∀ q ∈ p.preorder, ∀ n, g.yield q = .node n → g.nodes.isTokenNode n = true →
    q.wrapsItem = false

/-- What a well-wrapped parser holds is well wrapped. -/
theorem WellWrapped.child (h : g.WellWrapped p) (hq : q ∈ p.children) : g.WellWrapped q where
  single := hidden_of_mem_children h.single hq
  bare r hr := h.bare r <| by
    rw [preorder_eq]
    exact List.mem_cons_of_mem _ (List.mem_flatMap.mpr ⟨q, hq, hr⟩)

/-- A well-wrapped parser is so without its wrapper. -/
theorem WellWrapped.unwrap (h : g.WellWrapped p) : g.WellWrapped p.unwrap := by
  cases p with
  | dontSkip => exact h.child List.mem_cons_self
  | _ => exact h

/-- In a well-wrapped parser that yields a token node, no item of its row is wrapped. -/
theorem WellWrapped.bare_self (h : g.WellWrapped p) (yields : g.yield p = .node n)
    (token : g.nodes.isTokenNode n = true) : p.wrapsItem = false :=
  h.bare p p.mem_preorder_self n yields token

/-- The second parser is the first with wrappers put in, and tells what the first does wherever that
tells anything. -/
structure Transparent (g : Grammar) (p p' : Parser) : Prop where
  wraps : p.WrapsTo p'
  wrapped : g.WellWrapped p'
  run : (g.emitRun p).Within (g.emitRun p')
  field (f : FieldUnparser) : (g.emitField p f).Within (g.emitField p' f)
  node (n : NodeId) : (g.nodes.isTokenNode n = true → p'.unwrap.wrapsItem = false) →
    (g.deriveNode n p).Within (g.deriveNode n p')

/-- Where no wrapper is put in, nothing changes. -/
theorem Transparent.refl (wrapped : g.WellWrapped p) : g.Transparent p p :=
  ⟨.refl p, wrapped, .refl _, fun _ => .refl _, fun _ _ => .refl _⟩

/-! ### Rows -/

/-- Where wrappers make no difference to items, they make none to their runs. -/
theorem within_emitRuns (h : List.Forall₂ g.Transparent items items') :
    (g.emitRuns items).Within (g.emitRuns items') := by
  induction h with
  | nil => exact .refl _
  | cons head _ tail => exact head.run.bind fun _ => tail.bind fun _ => .refl _

theorem within_emitPicked (h : List.Forall₂ g.Transparent items items') (index : Nat)
    (f : FieldUnparser) : (g.emitPicked items index f).Within (g.emitPicked items' index f) := by
  induction h generalizing index with
  | nil => exact .refl _
  | cons head _ tail =>
    cases index with
    | zero => exact head.field f
    | succ index => exact tail index

/-- Where wrappers make no difference to items, they make none to the row. -/
theorem within_fillRow (h : List.Forall₂ g.Transparent items items') (overflow overflow' : Problem)
    (fields : List FieldUnparser) :
    (g.fillRow overflow fields items).Within (g.fillRow overflow' fields items') := by
  induction h generalizing fields with
  | nil => exact .refl _
  | cons head _ tail =>
    simp only [fillRow, head.wraps.discards_eq]
    split
    · exact head.run.bind fun _ => (tail _).bind fun _ => .refl _
    · cases fields with
      | nil => exact .throw _ _
      | cons f fields => exact (head.field f).bind fun _ => (tail _).bind fun _ => .refl _

/-! ### Branches -/

/-- A branch of a choice is looked at without the wrapper around it. -/
theorem Transparent.within_checkBranch (h : g.Transparent p p') (single : p'.isDontSkip = false) :
    Within (g.checkBranch p fun n => g.deriveNode n p)
      (g.checkBranch p' fun n => g.deriveNode n p') := by
  have plain : p'.unwrap = p' := by
    cases p' with
    | dontSkip => cases single
    | _ => rfl
  have node (n : NodeId) (bare : g.nodes.isTokenNode n = true → p'.wrapsItem = false) :
      (g.deriveNode n p).Within (g.deriveNode n p') :=
    h.node n (plain.symm ▸ bare)
  have same : g.yield p' = g.yield p := h.wraps.yieldWith_eq g.nodes _
  cases h.wraps with
  | refl => exact .refl _
  | wrap | dontSkip => cases single
  | optBool id id' alternatives h =>
    exact (node _ fun _ => rfl).bind fun _ => (node _ fun _ => rfl).bind fun _ => .refl _
  | _ =>
    simp only [checkBranch, same]
    split
    next n yields =>
      split
      · refine (node n fun token => ?_).bind fun _ => .refl _
        exact h.wrapped.bare_self (same.trans yields) token
      · exact .throw _ _
    all_goals exact .throw _ _

/-- Where wrappers make no difference to branches, they make none to a choice. -/
theorem within_checkBranches
    (h : List.Forall₂ (fun p p' => g.Transparent p p' ∧ g.Transparent p.unwrap p'.unwrap)
      items items') : (g.checkBranches items).Within (g.checkBranches items') := by
  induction h with
  | nil => exact .refl _
  | cons head _ tail =>
    obtain ⟨outside, inside⟩ := head
    have single := (outside.wraps.unwrap outside.wrapped.single).2
    rw [checkBranches_cons, checkBranches_cons]
    exact (inside.within_checkBranch single).bind fun _ => tail

/-! ### Every parser -/

/-- It is enough to look at the node types that are derived from the combinator. -/
theorem Transparent.of_regular (wraps : p.WrapsTo p') (wrapped : g.WellWrapped p')
    (run : (g.emitRun p).Within (g.emitRun p'))
    (field : ∀ f, (g.emitField p f).Within (g.emitField p' f))
    (node : ∀ n, g.nodes.isConcrete n = true → g.nodes.isTokenNode n = false →
      (g.deriveNode n p).Within (g.deriveNode n p')) : g.Transparent p p' := by
  refine ⟨wraps, wrapped, run, field, fun n bare => ?_⟩
  by_cases concrete : g.nodes.isConcrete n = true
  · by_cases token : g.nodes.isTokenNode n = true
    · obtain ⟨inside, single⟩ := wraps.unwrap wrapped.single
      unfold deriveNode
      simp only [concrete, token, Bool.not_true, Bool.false_eq_true, if_false, if_true]
      split
      next one =>
        rw [if_pos (inside.wrapsOneToken single (bare token) one)]
        exact .refl _
      next => exact .throw _ _
    · exact node n concrete (Bool.not_eq_true _ |>.mp token)
  · unfold deriveNode
    simp only [concrete, Bool.not_false, if_true]
    exact .throw _ _

/-- No unparser of a node is made of the parser, whatever is put into it. -/
theorem Transparent.of_unparsable (wraps : p.WrapsTo p') (wrapped : g.WellWrapped p')
    (run : (g.emitRun p).Within (g.emitRun p'))
    (field : ∀ f, (g.emitField p f).Within (g.emitField p' f)) (h : p.isUnparsable = true) :
    g.Transparent p p' := by
  refine .of_regular wraps wrapped run field fun n concrete regular => ?_
  rw [deriveNode_unparsable concrete regular h]
  exact .throw _ _

/-- A node type that is built from fields is derived alike. -/
theorem Transparent.node_of_regular (h : g.Transparent p p')
    (regular : g.nodes.isTokenNode n = false) : (g.deriveNode n p).Within (g.deriveNode n p') :=
  h.node n fun token => absurd token (by simp [regular])

/-- Wrappers inside a row make no difference. -/
theorem transparent_row (h : List.Forall₂ g.Transparent items items') (id id' : ParserId)
    (wrapped : g.WellWrapped (.row id' items')) :
    g.Transparent (.row id items) (.row id' items') :=
  .of_unparsable (.row id id' (h.imp fun _ _ => (·.wraps))) wrapped (within_emitRuns h)
    (fun _ => .throw _ _) rfl

/-- Wrappers inside a transform make no difference. -/
theorem transparent_transform (h : List.Forall₂ g.Transparent items items') (id id' : ParserId)
    (type : NodeId) (rowId rowId' : ParserId)
    (wrapped : g.WellWrapped (.transform id' type rowId' items')) :
    g.Transparent (.transform id type rowId items) (.transform id' type rowId' items') := by
  refine .of_regular (.transform id id' type rowId rowId' (h.imp fun _ _ => (·.wraps))) wrapped
    (.throw _ _) (fun f => .refl _) fun n concrete regular => ?_
  rw [deriveNode_transform concrete regular, deriveNode_transform concrete regular]
  refine (within_fillRow h _ _ _).bind fun filled => ?_
  dsimp only
  split
  · exact (Within.throw _ _).bind fun _ => .refl _
  · exact .refl _

/-- Wrappers inside a pick make no difference. -/
theorem transparent_pick (h : List.Forall₂ g.Transparent items items')
    (id id' rowId rowId' : ParserId) (index : Nat)
    (wrapped : g.WellWrapped (.pick id' rowId' items' index)) :
    g.Transparent (.pick id rowId items index) (.pick id' rowId' items' index) := by
  refine .of_unparsable (.pick id id' rowId rowId' index (h.imp fun _ _ => (·.wraps))) wrapped
    (.throw _ _) (fun f => ?_) rfl
  simp only [emitField, splitPick]
  cases found : items[index]? with
  | none => exact (Within.throw _ _).bind fun _ => within_emitPicked h index _
  | some item =>
    have bound : index < items'.length := h.length_eq ▸ (List.getElem?_eq_some_iff.mp found).1
    simp only [List.getElem?_eq_getElem bound, bind_assoc, pure_bind]
    refine (within_emitRuns (List.forall₂_take _ h)).bind fun pre => ?_
    exact (within_emitRuns (List.forall₂_drop _ h)).bind fun post => within_emitPicked h index _

/-- Wrappers inside a list make no difference. -/
theorem transparent_list (id id' : ParserId) (type : NodeId) (separator : Option Parser)
    (wraps : p.WrapsTo p') (wrapped : g.WellWrapped (.list id' type p' separator)) :
    g.Transparent (.list id type p separator) (.list id' type p' separator) := by
  refine .of_regular (.list id id' type separator wraps) wrapped (.throw _ _)
    (fun f => .refl _) fun n concrete regular => ?_
  cases separator with
  | none =>
    rw [deriveNode_list_none concrete regular, deriveNode_list_none concrete regular]
    exact .refl _
  | some separator =>
    rw [deriveNode_list_some concrete regular, deriveNode_list_some concrete regular]
    exact .refl _

/-- Wrappers inside an optional make no difference. -/
theorem transparent_opt (h : g.Transparent p p') (id id' : ParserId) (tolerant : Bool)
    (wrapped : g.WellWrapped (.opt id' p' tolerant)) :
    g.Transparent (.opt id p tolerant) (.opt id' p' tolerant) := by
  refine .of_regular (.opt id id' tolerant h.wraps) wrapped ?_ (fun f => h.field _)
    fun n concrete regular => ?_
  · cases tolerant with
    | true => exact h.run
    | false => exact .throw _ _
  · rw [deriveNode_opt concrete regular, deriveNode_opt concrete regular]
    exact h.node_of_regular regular

/-- Wrappers inside a boolean optional make no difference. -/
theorem transparent_optBool (h : g.Transparent p p') (id id' : ParserId)
    (alternatives : BoolAlternatives) (wrapped : g.WellWrapped (.optBool id' p' alternatives)) :
    g.Transparent (.optBool id p alternatives) (.optBool id' p' alternatives) := by
  refine .of_regular (.optBool id id' alternatives h.wraps) wrapped (.throw _ _)
    (fun f => .refl _) fun n concrete regular => ?_
  rw [deriveNode_optBool concrete regular, deriveNode_optBool concrete regular]
  split
  · exact h.run.bind fun _ => .refl _
  · exact .refl _

/-- Wrappers inside a choice make no difference. -/
theorem transparent_choice
    (h : List.Forall₂ (fun p p' => g.Transparent p p' ∧ g.Transparent p.unwrap p'.unwrap)
      items items') (id id' : ParserId) (wrapped : g.WellWrapped (.choice id' items')) :
    g.Transparent (.choice id items) (.choice id' items') :=
  .of_unparsable (.choice id id' (h.imp fun _ _ => (·.1.wraps))) wrapped (.throw _ _)
    (fun _ => (within_checkBranches h).bind fun _ => .refl _) rfl

/-- **A single wrapper makes no difference.** -/
theorem transparent_wrap (h : g.Transparent p p') (id : ParserId)
    (wrapped : g.WellWrapped (.dontSkip id p')) : g.Transparent p (.dontSkip id p') := by
  have single := isDontSkip_inner_of_hidden wrapped.single
  refine .of_regular (.wrap id h.wraps) wrapped ?_ (fun f => ?_) fun n concrete regular => ?_
  · rw [emitRun_dontSkip, if_neg (by simp [single])]
    exact h.run
  · rw [emitField_dontSkip, if_neg (by simp [single])]
    exact h.field f
  · rw [deriveNode_dontSkip concrete regular, if_neg (by simp [single])]
    exact h.node_of_regular regular

/-- Wrappers inside a wrapper make no difference. -/
theorem transparent_dontSkip (h : g.Transparent p p') (id id' : ParserId)
    (wrapped : g.WellWrapped (.dontSkip id' p')) :
    g.Transparent (.dontSkip id p) (.dontSkip id' p') := by
  have outer := transparent_wrap h id' wrapped
  have single : p.isDontSkip = false := by
    have single := isDontSkip_inner_of_hidden wrapped.single
    exact Bool.eq_false_iff.mpr fun wrapper => by
      simp [h.wraps.isDontSkip_of_left wrapper] at single
  refine .of_regular (.dontSkip id id' h.wraps) wrapped ?_ (fun f => ?_)
    fun n concrete regular => ?_
  · rw [emitRun_dontSkip, if_neg (by simp [single])]
    exact outer.run
  · rw [emitField_dontSkip, if_neg (by simp [single])]
    exact outer.field f
  · rw [deriveNode_dontSkip concrete regular, if_neg (by simp [single])]
    exact outer.node_of_regular regular

/-- What is known of well-wrapped items, pair by pair. -/
theorem forall₂_of_wellWrapped {R : Parser → Parser → Prop}
    (ih : List.Forall₂ (fun p p' => ∃ _ : p.WrapsTo p', g.WellWrapped p' → R p p') items items')
    (wrapped : ∀ p' ∈ items', g.WellWrapped p') : List.Forall₂ R items items' := by
  induction ih with
  | nil => exact .nil
  | cons head _ tail =>
    rw [List.forall_mem_cons] at wrapped
    obtain ⟨_, here⟩ := head
    exact .cons (here wrapped.1) (tail wrapped.2)

/-- **What a parser tells is told through wrappers.**  Branches of a choice are looked at without
their wrapper, so the induction carries both along. -/
theorem transparent_and_unwrap (wraps : p.WrapsTo p') (wrapped : g.WellWrapped p') :
    g.Transparent p p' ∧ g.Transparent p.unwrap p'.unwrap := by
  have items {q : Parser} {id : ParserId} {items : List Parser} (wrapped : g.WellWrapped q)
      (row : q.children = [.row id items]) : ∀ p ∈ items, g.WellWrapped p :=
    have inside : g.WellWrapped (.row id items) := wrapped.child (row ▸ List.mem_cons_self)
    fun _ => inside.child
  have rows {items items' : List Parser}
      (h : List.Forall₂ (fun p p' => g.Transparent p p' ∧ g.Transparent p.unwrap p'.unwrap)
        items items') : List.Forall₂ g.Transparent items items' := h.imp fun _ _ => And.left
  have plain {p p' : Parser} (h : g.Transparent p p') (bare : p.unwrap = p)
      (bare' : p'.unwrap = p') : g.Transparent p p' ∧ g.Transparent p.unwrap p'.unwrap :=
    ⟨h, bare.symm ▸ bare'.symm ▸ h⟩
  induction wraps using WrapsTo.induction with
  | refl p => exact ⟨.refl wrapped, .refl wrapped.unwrap⟩
  | @wrap p q id h ih =>
    have inner := wrapped.child List.mem_cons_self
    have single := isDontSkip_inner_of_hidden wrapped.single
    refine ⟨transparent_wrap (ih inner).1 id wrapped, ?_⟩
    cases q with
    | dontSkip => cases single
    | _ => exact (ih inner).2
  | row id id' _ ih =>
    have row := rows (forall₂_of_wellWrapped ih fun _ => wrapped.child)
    exact plain (transparent_row row id id' wrapped) rfl rfl
  | transform id id' node rowId rowId' _ ih =>
    have row := rows (forall₂_of_wellWrapped ih (items wrapped rfl))
    exact plain (transparent_transform row id id' node rowId rowId' wrapped) rfl rfl
  | pick id id' rowId rowId' index _ ih =>
    have row := rows (forall₂_of_wellWrapped ih (items wrapped rfl))
    exact plain (transparent_pick row id id' rowId rowId' index wrapped) rfl rfl
  | list id id' node separator h _ =>
    exact plain (transparent_list id id' node separator h wrapped) rfl rfl
  | opt id id' tolerant _ ih =>
    have inner := (ih (wrapped.child List.mem_cons_self)).1
    exact plain (transparent_opt inner id id' tolerant wrapped) rfl rfl
  | optBool id id' alternatives _ ih =>
    have inner := (ih (wrapped.child List.mem_cons_self)).1
    exact plain (transparent_optBool inner id id' alternatives wrapped) rfl rfl
  | choice id id' _ ih =>
    have branches := forall₂_of_wellWrapped ih fun _ => wrapped.child
    exact plain (transparent_choice branches id id' wrapped) rfl rfl
  | predicate id id' property h _ =>
    have wraps := WrapsTo.predicate id id' property h
    exact plain (.of_unparsable wraps wrapped (.throw _ _) (fun _ => .throw _ _) rfl) rfl rfl
  | dontSkip id id' _ ih =>
    have inner := (ih (wrapped.child List.mem_cons_self)).1
    exact ⟨transparent_dontSkip inner id id' wrapped, inner⟩

end Grammar

end Unparsing
