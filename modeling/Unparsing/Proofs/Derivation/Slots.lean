import Unparsing.Proofs.Derivation.Facing

/-!
# Proofs/Derivation/Slots — producers that agree write their tokens in the same slots

Two parsers that build nodes of one type and agree derive unparsers with tokens of the same kinds in
the same slots (`Grammar.sameSlots_of_agree`).  Their texts may differ: those are compared when the
unparsers are combined.

The comparison passes over absent nodes, and judges what an optional holds only by its creating
nodes, so it has to be known that the two parsers build the nodes alike (`Parser.Counterpart`).
-/

namespace Unparsing

open TokenTable

/-! ## The same slots -/

/-- Two numbers, of two tables, that name tokens of one kind. -/
def TokenTable.SameKind (t₁ t₂ : TokenTable) (i j : TokenId) : Prop :=
  ∃ u v, t₁.get? i = some u ∧ t₂.get? j = some v ∧ u.kind = v.kind

/-- Two unparsers of a field with related tokens around it, unless one of them is always absent. -/
structure FieldUnparser.SameSlots (ρ : TokenId → TokenId → Prop) (a b : FieldUnparser) : Prop where
  node : a.node = b.node
  field : a.field = b.field
  pre : a.alwaysAbsent = false → b.alwaysAbsent = false → List.Forall₂ ρ a.pre b.pre
  post : a.alwaysAbsent = false → b.alwaysAbsent = false → List.Forall₂ ρ a.post b.post

/-- Two unparsers of a node with fields, with related tokens in every slot. -/
structure RegularUnparser.SameSlots (ρ : TokenId → TokenId → Prop) (a b : RegularUnparser) :
    Prop where
  node : a.node = b.node
  pre : List.Forall₂ ρ a.pre b.pre
  fields : List.Forall₂ (FieldUnparser.SameSlots ρ) a.fields b.fields
  inter : List.Forall₂ (List.Forall₂ ρ) a.inter b.inter
  post : List.Forall₂ ρ a.post b.post

/-- Two unparsers of one form, with related tokens in every slot. -/
inductive NodeUnparser.SameSlots (ρ : TokenId → TokenId → Prop) : NodeUnparser → NodeUnparser → Prop
  | regular {a b : RegularUnparser} : a.SameSlots ρ b → SameSlots ρ (.regular a) (.regular b)
  | list {node : NodeId} {a b : Option TokenId} : Option.Rel ρ a b →
      SameSlots ρ (.list ⟨node, a⟩) (.list ⟨node, b⟩)
  | tokenNode (node : NodeId) : SameSlots ρ (.tokenNode node) (.tokenNode node)
  | null (node : NodeId) : SameSlots ρ (.null node) (.null node)

instance {t₁ t₂ : TokenTable} {i j : TokenId} : Decidable (t₁.SameKind t₂ i j) :=
  decidable_of_iff ((t₁.get? i).any fun u => (t₂.get? j).any (u.kind == ·.kind))
    (by simp [SameKind, Option.any_eq_true])

section Decidable

variable {ρ : TokenId → TokenId → Prop} [∀ i j, Decidable (ρ i j)]

instance (a b : Option TokenId) : Decidable (Option.Rel ρ a b) :=
  match a, b with
  | some i, some j => decidable_of_iff (ρ i j) ⟨.some, fun | .some h => h⟩
  | none, none => isTrue .none
  | some _, none | none, some _ => isFalse nofun

instance (a b : FieldUnparser) : Decidable (a.SameSlots ρ b) :=
  decidable_of_iff (a.node = b.node ∧ a.field = b.field ∧
      (a.alwaysAbsent = false → b.alwaysAbsent = false → List.Forall₂ ρ a.pre b.pre) ∧
      (a.alwaysAbsent = false → b.alwaysAbsent = false → List.Forall₂ ρ a.post b.post))
    ⟨fun ⟨node, field, pre, post⟩ => ⟨node, field, pre, post⟩,
      fun h => ⟨h.node, h.field, h.pre, h.post⟩⟩

instance (a b : RegularUnparser) : Decidable (a.SameSlots ρ b) :=
  decidable_of_iff (a.node = b.node ∧ List.Forall₂ ρ a.pre b.pre ∧
      List.Forall₂ (FieldUnparser.SameSlots ρ) a.fields b.fields ∧
      List.Forall₂ (List.Forall₂ ρ) a.inter b.inter ∧ List.Forall₂ ρ a.post b.post)
    ⟨fun ⟨node, pre, fields, inter, post⟩ => ⟨node, pre, fields, inter, post⟩,
      fun h => ⟨h.node, h.pre, h.fields, h.inter, h.post⟩⟩

instance : (a b : NodeUnparser) → Decidable (a.SameSlots ρ b)
  | .regular a, .regular b => decidable_of_iff (a.SameSlots ρ b) ⟨.regular, fun | .regular h => h⟩
  | .list ⟨m, a⟩, .list ⟨n, b⟩ =>
    if node : m = n then
      decidable_of_iff (Option.Rel ρ a b) ⟨fun h => node ▸ .list h, fun | .list h => h⟩
    else
      isFalse fun | .list _ => node rfl
  | .tokenNode m, .tokenNode n =>
    decidable_of_iff (m = n) ⟨fun h => h ▸ .tokenNode m, fun | .tokenNode _ => rfl⟩
  | .null m, .null n => decidable_of_iff (m = n) ⟨fun h => h ▸ .null m, fun | .null _ => rfl⟩
  | .regular _, .list _ | .regular _, .tokenNode _ | .regular _, .null _ | .list _, .regular _
  | .list _, .tokenNode _ | .list _, .null _ | .tokenNode _, .regular _ | .tokenNode _, .list _
  | .tokenNode _, .null _ | .null _, .regular _ | .null _, .list _ | .null _, .tokenNode _ =>
    isFalse nofun

end Decidable

namespace Parser

/-- **Two parsers that build the nodes of a type alike**: looking through wrappers, and through
optionals in step, both come to producers of one form, or to absent nodes. -/
inductive Counterpart (node : NodeId) : Parser → Parser → Prop
  | transform {id id' rowId rowId' : ParserId} {type type' : NodeId} {items items' : List Parser} :
      List.Forall₂ FacesInRow (Parser.transform id type rowId items).slots
        (Parser.transform id' type' rowId' items').slots →
      Counterpart node (.transform id type rowId items) (.transform id' type' rowId' items')
  /-- The elements are not written here, but a marker in their place moves the separator. -/
  | list {id id' : ParserId} {type type' : NodeId} {element element' : Parser}
      {separator separator' : Option Parser} : element.isNoBacktrack = element'.isNoBacktrack →
      Counterpart node (.list id type element separator) (.list id' type' element' separator')
  /-- The nodes are the present alternative of both, or of neither. -/
  | optBool {id id' : ParserId} {inner inner' : Parser} {alternatives alternatives' :
      BoolAlternatives} : (node = alternatives.present ↔ node = alternatives'.present) →
      (node = alternatives.present → Faces inner inner') →
      Counterpart node (.optBool id inner alternatives) (.optBool id' inner' alternatives')
  | null {id id' : ParserId} {type type' : NodeId} :
      Counterpart node (.null id type) (.null id' type')
  | opt {id id' : ParserId} {inner inner' : Parser} {tolerant tolerant' : Bool} :
      Counterpart node inner inner' →
      Counterpart node (.opt id inner tolerant) (.opt id' inner' tolerant')
  | dontSkip_left {id : ParserId} {a b : Parser} : Counterpart node a b →
      Counterpart node (.dontSkip id a) b
  | dontSkip_right {id : ParserId} {a b : Parser} : Counterpart node a b →
      Counterpart node a (.dontSkip id b)

end Parser

/-! ## Names of the same kinds -/

variable {g : Grammar} {t t' t'' : TokenTable}

/-- What a token names is the parser of a token. -/
theorem TokenTable.Names.token {i : TokenId} {p : Parser} (h : t.Names i p) :
    ∃ id kind text, p = .token id kind text := by
  obtain ⟨_, _, hp⟩ := h
  cases p with
  | token id kind text => exact ⟨id, kind, text, rfl⟩
  | _ => cases hp

/-- A token has the kind of the parser that it names. -/
theorem TokenTable.Names.exists_kind {i : TokenId} {p : Parser} (h : t.Names i p) :
    ∃ u, t.get? i = some u ∧ p.tokenKind? = some u.kind := by
  obtain ⟨id, kind, text, rfl⟩ := h.token
  obtain ⟨u, hi, hp⟩ := h
  exact ⟨u, hi, congrArg some (congrArg TokenIdentity.kind (Option.some.inj hp))⟩

/-- Tokens that name parsers of one kind are of one kind. -/
theorem TokenTable.Names.sameKind {i j : TokenId} {p q : Parser} (hp : t.Names i p)
    (same : p.tokenKind? = q.tokenKind?) (hq : t.Names j q) : t.SameKind t i j := by
  obtain ⟨u, hi, kind⟩ := hp.exists_kind
  obtain ⟨v, hj, kind'⟩ := hq.exists_kind
  exact ⟨u, v, hi, hj, Option.some.inj (kind.symm.trans (same.trans kind'))⟩

/-- Runs that name tokens of the same kinds. -/
theorem sameKind_of_names {r s : TokenRun} {ps qs : List Parser} (hr : List.Forall₂ t.Names r ps)
    (same : Parser.SameKinds ps qs) (hs : List.Forall₂ t.Names s qs) :
    List.Forall₂ (t.SameKind t) r s :=
  forall₂_of_named (fun _ _ _ _ hi same hj => hi.sameKind same hj) hr same hs

/-! ## Fields and rows -/

variable {ρ : TokenId → TokenId → Prop} {ns : NodeTypes} {node : NodeId}

/-- Two fields, each with the run after it, with related tokens. -/
def AlikeSlot (ρ : TokenId → TokenId → Prop) (a b : FieldUnparser × TokenRun) : Prop :=
  (a.1.alwaysAbsent = false → b.1.alwaysAbsent = false →
    List.Forall₂ ρ a.1.pre b.1.pre ∧ List.Forall₂ ρ a.1.post b.1.post) ∧ List.Forall₂ ρ a.2 b.2

/-- Well-shaped unparsers of one node type have the same fields in the same places. -/
theorem RegularUnparser.WellShaped.same_names {a b : RegularUnparser} (ha : a.WellShaped ns)
    (hb : b.WellShaped ns) (node : a.node = b.node) :
    List.Forall₂ (fun f f' => f.node = f'.node ∧ f.field = f'.field) a.fields b.fields := by
  have fields : List.Forall₂ (· = ·) (a.fields.map (·.field)) (b.fields.map (·.field)) := by
    rw [List.forall₂_eq_eq_eq, ha.fields, hb.fields, node]
  rw [List.forall₂_map_left_iff, List.forall₂_map_right_iff] at fields
  refine forall₂_imp_mem fields fun f hf f' hf' same => ⟨?_, same⟩
  rw [ha.node f hf, hb.node f' hf', node]

/-- Unparsers made of slots that are alike. -/
theorem sameSlots_ofRow {lead lead' : TokenRun} {filled filled' : List (FieldUnparser × TokenRun)}
    (shaped : (RegularUnparser.ofRow node lead filled).WellShaped ns)
    (shaped' : (RegularUnparser.ofRow node lead' filled').WellShaped ns)
    (same : List.Forall₂ ρ lead lead') (slots : List.Forall₂ (AlikeSlot ρ) filled filled') :
    (RegularUnparser.ofRow node lead filled).SameSlots ρ (.ofRow node lead' filled') := by
  have runs : List.Forall₂ (List.Forall₂ ρ) (filled.map (·.2)) (filled'.map (·.2)) := by
    rw [List.forall₂_map_left_iff, List.forall₂_map_right_iff]
    exact slots.imp fun _ _ slot => slot.2
  have around : List.Forall₂ (fun f f' => f.alwaysAbsent = false → f'.alwaysAbsent = false →
      List.Forall₂ ρ f.pre f'.pre ∧ List.Forall₂ ρ f.post f'.post)
      (filled.map (·.1)) (filled'.map (·.1)) := by
    rw [List.forall₂_map_left_iff, List.forall₂_map_right_iff]
    exact slots.imp fun _ _ slot => slot.1
  exact {
    node := rfl
    pre := same
    fields := List.Forall₂.mp (fun f f' names around => ⟨names.1, names.2,
      fun shown shown' => (around shown shown').1, fun shown shown' => (around shown shown').2⟩)
      (shaped.same_names shaped' rfl) around
    inter := forall₂_dropLast runs
    post := forall₂_getLast?_getD runs .nil }

/-- Unparsers that only have tokens in front. -/
theorem sameSlots_blank {pre pre' : TokenRun} (same : List.Forall₂ ρ pre pre') :
    RegularUnparser.SameSlots ρ { RegularUnparser.blank ns node with pre }
      { RegularUnparser.blank ns node with pre := pre' } where
  node := rfl
  pre := same
  fields := List.forall₂_same.mpr fun f hf => by
    obtain ⟨_, pre, post⟩ := Grammar.blank_fields f hf
    exact ⟨rfl, rfl, fun _ _ => pre ▸ .nil, fun _ _ => post ▸ .nil⟩
  inter := List.forall₂_same.mpr fun r hr => by
    rw [List.eq_of_mem_replicate hr]
    exact .nil
  post := .nil

namespace Grammar

/-- Fields whose parsers are written alike have tokens of the same kinds around them. -/
theorem FieldOf.sameSlot {f f' : FieldUnparser} {p q : Parser} (hf : FieldOf t f p)
    (hf' : FieldOf t f' q)
    (alike : p.strip.isNull = true ∨ q.strip.isNull = true ∨ p.Alike q)
    (shown : f.alwaysAbsent = false) (shown' : f'.alwaysAbsent = false) :
    List.Forall₂ (t.SameKind t) f.pre f'.pre ∧ List.Forall₂ (t.SameKind t) f.post f'.post := by
  obtain absent | absent | alike := alike
  · rw [hf.absent absent] at shown
    cases shown
  · rw [hf'.absent absent] at shown'
    cases shown'
  · obtain ⟨before, after, field, pre, post⟩ := hf.around
    obtain ⟨before', after', field', pre', post'⟩ := hf'.around
    obtain ⟨same, same'⟩ := alike.field field field'
    exact ⟨sameKind_of_names pre same pre', sameKind_of_names post same' post'⟩

/-- A field of a parser is one in every larger table. -/
theorem FieldOf.mono {f : FieldUnparser} {p : Parser} (grown : t.Extends t') (h : FieldOf t f p) :
    FieldOf t' f p where
  around :=
    let ⟨before, after, field, around⟩ := h.around
    ⟨before, after, field, around.mono grown⟩
  absent := h.absent

/-- **Rows that agree** fill the slots of an unparser with tokens of the same kinds. -/
theorem fillRow_sameSlots {overflow overflow' : Problem} {fields fields' : List FieldUnparser}
    {items items' : List Parser} {r r' : TokenRun × List (FieldUnparser × TokenRun)}
    (ht : t.Faithful g.kinds)
    (blank : ∀ f ∈ fields, f.alwaysAbsent = true ∧ f.pre = [] ∧ f.post = [])
    (blank' : ∀ f ∈ fields', f.alwaysAbsent = true ∧ f.pre = [] ∧ f.post = [])
    (faces : List.Forall₂ (fun p q => p.FacesInRow q ∧ g.agreeAt false [p, q] = true)
      (items.filter (!·.isNoBacktrack)) (items'.filter (!·.isNoBacktrack)))
    (run : g.fillRow overflow fields items t = .ok r t')
    (run' : g.fillRow overflow' fields' items' t' = .ok r' t'') :
    List.Forall₂ (t''.SameKind t'') r.1 r'.1 ∧
      List.Forall₂ (AlikeSlot (t''.SameKind t'')) r.2 r'.2 := by
  have middle := fillRow_grows ht run
  have grown := fillRow_grows middle.2 run'
  obtain ⟨inRow, lead, filled⟩ := fillRow_layout ht blank run
  obtain ⟨inRow', lead', filled'⟩ := fillRow_layout middle.2 blank' run'
  obtain ⟨same, parts⟩ := Parser.layout_alike faces (fun p hp => inRow p (List.mem_filter.mp hp).1)
    fun p hp => inRow' p (List.mem_filter.mp hp).1
  rw [Parser.layout_filter, Parser.layout_filter] at same parts
  have mono {s : TokenRun} {ps : List Parser} (h : List.Forall₂ t'.Names s ps) :
      List.Forall₂ t''.Names s ps := h.imp fun _ _ => .mono grown.1
  refine ⟨sameKind_of_names (mono lead) same lead', forall₂_of_named ?_ filled parts filled'⟩
  rintro slot part part' slot' ⟨field, behind⟩ ⟨alike, same⟩ ⟨field', behind'⟩
  exact ⟨(field.mono grown.1).sameSlot field' alike, sameKind_of_names (mono behind) same behind'⟩

/-! ## Nodes -/

/-- The separator of a list is named by its token. -/
theorem deriveNode_list_names {id : ParserId} {type : NodeId} {element : Parser}
    {separator : Option Parser} {u : NodeUnparser}
    (concrete : g.nodes.isConcrete node = true) (regular : g.nodes.isTokenNode node = false)
    (run : g.deriveNode node (.list id type element separator) t = .ok u t') :
    ∃ token, u = .list ⟨node, token⟩ ∧ Option.Rel t'.Names token separator := by
  cases separator with
  | none =>
    rw [deriveNode_list_none concrete regular] at run
    cases run
    exact ⟨none, rfl, .none⟩
  | some separator =>
    rw [deriveNode_list_some concrete regular] at run
    obtain ⟨_, _, interned, run⟩ := estate_bind_eq_ok.mp run
    cases run
    exact ⟨some _, rfl, .some (internParser_names interned)⟩

/-- The separators of lists that agree are of one kind, or both are left out. -/
theorem sameKind_separators {toplevel : Bool} {id id' : ParserId} {type type' : NodeId}
    {element element' : Parser} {separator separator' : Option Parser}
    {token token' : Option TokenId} (agree : g.agreeAt toplevel
      [.list id type element separator, .list id' type' element' separator'] = true)
    (elements : element.isNoBacktrack = element'.isNoBacktrack)
    (named : Option.Rel t.Names token separator) (named' : Option.Rel t.Names token' separator') :
    Option.Rel (t.SameKind t) token token' := by
  -- A separator is a token, so it is not left out of the comparison.
  have unmarked {token : Option TokenId} {separator : Option Parser}
      (named : Option.Rel t.Names token separator) :
      separator.toList.filter (!·.isNoBacktrack) = separator.toList := by
    cases named with
    | none => rfl
    | @some _ p name =>
      obtain ⟨id, kind, text, rfl⟩ := name.token
      rfl
  have rest : List.Forall₂ (fun x y => g.agreeAt false [x, y] = true) separator.toList
      separator'.toList := by
    have slots := agreeAt_slots agree rfl
    simp only [Parser.strip, Parser.slots, List.filter_cons, ← elements, unmarked named,
      unmarked named'] at slots
    split at slots
    · cases slots with
      | cons _ rest => exact rest
    · exact slots
  cases named with
  | none =>
    cases named' with
    | none => exact .none
    | some => cases rest
  | some name =>
    cases named' with
    | none => cases rest
    | some name' =>
      cases rest with
      | cons agree _ =>
        obtain ⟨_, _, _, rfl⟩ := name.token
        obtain ⟨_, _, _, rfl⟩ := name'.token
        exact .some (name.sameKind (tokenKind?_of_agreeAt agree rfl) name')

/-- Transforms whose rows agree have tokens of the same kinds. -/
theorem transform_sameSlots {toplevel : Bool} {id id' rowId rowId' : ParserId} {type type' : NodeId}
    {items items' : List Parser} {u v : NodeUnparser} (ht : t.Faithful g.kinds)
    (concrete : g.nodes.isConcrete node = true) (regular : g.nodes.isTokenNode node = false)
    (faces : List.Forall₂ Parser.FacesInRow (Parser.transform id type rowId items).slots
      (Parser.transform id' type' rowId' items').slots)
    (agree : g.agreeAt toplevel
      [.transform id type rowId items, .transform id' type' rowId' items'] = true)
    (run : g.deriveNode node (.transform id type rowId items) t = .ok u t')
    (run' : g.deriveNode node (.transform id' type' rowId' items') t' = .ok v t'') :
    u.SameSlots (t''.SameKind t'') v := by
  obtain ⟨-, -, shaped, -⟩ := deriveNode_ok run
  obtain ⟨-, -, shaped', -⟩ := deriveNode_ok run'
  obtain ⟨_, r, filled, -, rfl⟩ := fillRow_of_deriveNode concrete regular run
  obtain ⟨_, r', filled', -, rfl⟩ := fillRow_of_deriveNode concrete regular run'
  have faces := List.Forall₂.mp (fun _ _ => And.intro) faces (agreeAt_slots agree rfl)
  obtain ⟨same, slots⟩ := fillRow_sameSlots ht blank_fields blank_fields faces filled filled'
  exact .regular (sameSlots_ofRow shaped shaped' same slots)

/-- Boolean optionals that agree have tokens of the same kinds, also where the node is the absent
alternative of both. -/
theorem optBool_sameSlots {toplevel : Bool} {id id' : ParserId} {inner inner' : Parser}
    {alternatives alternatives' : BoolAlternatives} {u v : NodeUnparser} (ht : t.Faithful g.kinds)
    (concrete : g.nodes.isConcrete node = true) (regular : g.nodes.isTokenNode node = false)
    (present : node = alternatives.present ↔ node = alternatives'.present)
    (faces : node = alternatives.present → inner.Faces inner')
    (agree : g.agreeAt toplevel
      [.optBool id inner alternatives, .optBool id' inner' alternatives'] = true)
    (run : g.deriveNode node (.optBool id inner alternatives) t = .ok u t')
    (run' : g.deriveNode node (.optBool id' inner' alternatives') t' = .ok v t'') :
    u.SameSlots (t''.SameKind t'') v := by
  have middle := (oblivious_deriveNode node _).grows ht run
  have grown := (oblivious_deriveNode node _).grows middle.2 run'
  rw [deriveNode_optBool concrete regular] at run run'
  by_cases here : node = alternatives.present
  · rw [if_pos here] at run
    rw [if_pos (present.mp here)] at run'
    obtain ⟨pre, _, first, run⟩ := estate_bind_eq_ok.mp run
    obtain ⟨pre', _, second, run'⟩ := estate_bind_eq_ok.mp run'
    cases run
    cases run'
    have agree := agreeAt_slots agree rfl
    have alike := Parser.alike_of_lone_slot agree fun agree =>
      Parser.alike_of_agreeAt (faces here) agree (.inl (isRun_of_emitRun first))
        (.inl (isRun_of_emitRun second))
    have same := alike.run (isRun_of_emitRun first) (isRun_of_emitRun second)
    refine .regular (sameSlots_blank (sameKind_of_names ?_ same (emitRun_names second)))
    exact (emitRun_names first).imp fun _ _ => .mono grown.1
  · rw [if_neg here] at run
    rw [if_neg (mt present.mpr here)] at run'
    cases run
    cases run'
    exact .regular (sameSlots_blank .nil)

/-- **Counterparts that agree** derive unparsers with tokens of the same kinds in the same slots. -/
theorem deriveNode_sameSlots {toplevel : Bool} {a b : Parser} {u v : NodeUnparser}
    (ht : t.Faithful g.kinds) (concrete : g.nodes.isConcrete node = true)
    (regular : g.nodes.isTokenNode node = false) (counterpart : a.Counterpart node b)
    (agree : g.agreeAt toplevel [a, b] = true) (run : g.deriveNode node a t = .ok u t')
    (run' : g.deriveNode node b t' = .ok v t'') : u.SameSlots (t''.SameKind t'') v := by
  have middle := (oblivious_deriveNode node a).grows ht run
  have grown := (oblivious_deriveNode node b).grows middle.2 run'
  induction counterpart generalizing toplevel u v with
  | transform faces =>
    exact transform_sameSlots ht concrete regular faces agree run run'
  | list elements =>
    obtain ⟨token, rfl, named⟩ := deriveNode_list_names concrete regular run
    obtain ⟨token', rfl, named'⟩ := deriveNode_list_names concrete regular run'
    exact .list (sameKind_separators agree elements
      (optionRel_mono (fun _ _ => .mono grown.1) named) named')
  | optBool present faces =>
    exact optBool_sameSlots ht concrete regular present faces agree run run'
  | null =>
    rw [deriveNode_null concrete regular] at run run'
    cases run
    cases run'
    exact .null node
  | opt _ ih =>
    rw [deriveNode_opt concrete regular] at run run'
    obtain agree | ⟨_, _, rfl, rfl⟩ := Parser.lone_slot (agreeAt_slots agree rfl)
    · exact ih agree run run'
    · rw [deriveNode_unparsable concrete regular rfl] at run
      cases run
  | dontSkip_left _ ih =>
    rw [deriveNode_dontSkip concrete regular] at run
    rw [agreeAt_dontSkip_left] at agree
    split at run
    · cases run
    · exact ih agree run run'
  | dontSkip_right _ ih =>
    rw [deriveNode_dontSkip concrete regular] at run'
    rw [agreeAt_dontSkip_right] at agree
    split at run'
    · cases run'
    · exact ih agree run run'

/-- **Two parsers that build nodes of a type alike and agree** derive unparsers with tokens of the
same kinds in the same slots, one after the other over a table that interning has filled. -/
theorem sameSlots_of_agree {a b : Parser} {u v : NodeUnparser} (ht : t.Faithful g.kinds)
    (agree : g.agree [a, b] = true)
    (counterpart : g.nodes.isTokenNode node = false → a.Counterpart node b)
    (run : g.deriveNode node a t = .ok u t') (run' : g.deriveNode node b t' = .ok v t'') :
    u.SameSlots (t''.SameKind t'') v := by
  obtain ⟨concrete, ⟨token, -, rfl⟩ | regular⟩ := deriveNode_cases run
  · obtain ⟨-, ⟨-, -, rfl⟩ | regular⟩ := deriveNode_cases run'
    · exact .tokenNode node
    · rw [token] at regular
      cases regular
  · exact deriveNode_sameSlots ht concrete regular (counterpart regular) agree run run'

/-- Two parsers are misjudged: they agree, but what they derive, one after the other over a new
table, differs in some slot. -/
def Misjudges (g : Grammar) (node : NodeId) (a b : Parser) : Prop :=
  g.agree [a, b] = true ∧ ∃ u v t t', g.deriveNode node a {} = .ok u t ∧
    g.deriveNode node b t = .ok v t' ∧ ¬u.SameSlots (t'.SameKind t') v

instance (g : Grammar) (node : NodeId) (a b : Parser) : Decidable (g.Misjudges node a b) :=
  match run : g.deriveNode node a {} with
  | .error _ _ => isFalse fun ⟨_, _, _, _, _, done, _⟩ => by cases run.symm.trans done
  | .ok u t =>
    match run' : g.deriveNode node b t with
    | .error _ _ => isFalse fun ⟨_, _, _, _, _, done, done', _⟩ => by
        cases run.symm.trans done
        cases run'.symm.trans done'
    | .ok v t' =>
      decidable_of_iff (g.agree [a, b] = true ∧ ¬u.SameSlots (t'.SameKind t') v)
        ⟨fun ⟨agree, differ⟩ => ⟨agree, u, v, t, t', run, run', differ⟩,
          fun ⟨agree, _, _, _, _, done, done', differ⟩ => by
            cases run.symm.trans done
            cases run'.symm.trans done'
            exact ⟨agree, differ⟩⟩

end Grammar

/-! ## Boxes -/

namespace Boxes

open Grammar

/-- The token `.`. -/
def dot : Parser := .token ⟨0⟩ ⟨1⟩ none
/-- A unit, written as a dot. -/
def unit : Parser := .transform ⟨2⟩ ⟨0⟩ ⟨1⟩ [dot]
/-- A reference to the rule of units. -/
def content : Parser := .defer ⟨3⟩ ⟨0⟩
/-- A dot under one wrapper. -/
def wrapped : Parser := .dontSkip ⟨4⟩ dot
/-- A mark from which a row does not backtrack. -/
def marker : Parser := .noBacktrack ⟨5⟩
/-- A dot and whatever the rule of units parses. -/
def box : Parser := .transform ⟨7⟩ ⟨1⟩ ⟨6⟩ [dot, content]
/-- A dot under a wrapper, a mark and a unit. -/
def markedBox : Parser := .transform ⟨9⟩ ⟨1⟩ ⟨8⟩ [wrapped, marker, unit]
/-- A unit that is not there. -/
def absent : Parser := .null ⟨10⟩ ⟨0⟩
/-- A unit that may be missing. -/
def perhapsUnit : Parser := .opt ⟨11⟩ unit false
/-- A unit that may be missing in two ways. -/
def perhapsTwice : Parser := .opt ⟨12⟩ perhapsUnit false
/-- A unit that is written as nothing. -/
def empty : Parser := .transform ⟨14⟩ ⟨0⟩ ⟨13⟩ []
/-- A unit written as nothing, which may be missing. -/
def perhapsEmpty : Parser := .opt ⟨15⟩ empty false
/-- A box with a dot before a missing unit. -/
def dotFirst : Parser := .transform ⟨17⟩ ⟨1⟩ ⟨16⟩ [dot, absent]
/-- A box with a dot behind a missing unit. -/
def dotLast : Parser := .transform ⟨19⟩ ⟨1⟩ ⟨18⟩ [absent, dot]
/-- A missing unit, or nothing. -/
def perhapsAbsent : Parser := .opt ⟨20⟩ absent false
/-- A box with a missing unit or nothing. -/
def absentBox : Parser := .transform ⟨22⟩ ⟨1⟩ ⟨21⟩ [perhapsAbsent]
/-- A unit with a dot before it. -/
def dotted : Parser := .pick ⟨24⟩ ⟨23⟩ [dot, content] 1
/-- A unit with a dot before it, or nothing. -/
def perhapsDotted : Parser := .opt ⟨25⟩ dotted false
/-- A box with a unit that has a dot before it, or with nothing. -/
def dottedBox : Parser := .transform ⟨27⟩ ⟨1⟩ ⟨26⟩ [perhapsDotted]
/-- A flag, set by a dot. -/
def flag : Parser := .optBool ⟨28⟩ dot ⟨⟨2⟩, ⟨3⟩, ⟨4⟩⟩
/-- A flag, set if there is no dot. -/
def flagUnset : Parser := .optBool ⟨29⟩ dot ⟨⟨2⟩, ⟨4⟩, ⟨3⟩⟩
/-- A dot that is reported if it is missing. -/
def tolerant : Parser := .opt ⟨30⟩ dot true
/-- A box with a flag before a dot. -/
def flagFirst : Parser := .transform ⟨32⟩ ⟨1⟩ ⟨31⟩ [flag, tolerant]
/-- A box with a flag behind a dot. -/
def flagLast : Parser := .transform ⟨34⟩ ⟨1⟩ ⟨33⟩ [tolerant, flag]
/-- A dot under two wrappers. -/
def rewrapped : Parser := .dontSkip ⟨35⟩ wrapped
/-- A unit of a dot under two wrappers. -/
def hidden : Parser := .transform ⟨37⟩ ⟨0⟩ ⟨36⟩ [rewrapped]
/-- A list with dots between its elements. -/
def separated : Parser := .list ⟨38⟩ ⟨5⟩ marker (some dot)
/-- A list of dots. -/
def dots : Parser := .list ⟨39⟩ ⟨5⟩ dot none
/-- The end of the input, with a text. -/
def stop : Parser := .token ⟨40⟩ .termination (some "end")
/-- A unit before the end of the input, which is dropped. -/
def stopped : Parser := .pick ⟨42⟩ ⟨41⟩ [content, stop] 0
/-- A box with a unit before the end of the input. -/
def stoppedBox : Parser := .transform ⟨44⟩ ⟨1⟩ ⟨43⟩ [stopped]
/-- A box with a unit. -/
def bareBox : Parser := .transform ⟨46⟩ ⟨1⟩ ⟨45⟩ [content]

/-- Units, boxes of units, flags, and lists of units. -/
def registries : Grammar where
  nodes := (({} : NodeTypes).declare "Unit" none {} |>.2.declare "Box" none {}
    |>.2.addField ⟨1⟩ "content" |>.2.declareBool "Flag" |>.2.declareList "Items" ⟨0⟩ {}).2
  kinds := (({} : TokenKinds).declareLiteral "Dot" ".").2

/-- All parsers above, and the rule of units. -/
def grammar : Grammar :=
  registries.token ⟨1⟩ none |>.2.transform ⟨0⟩ [dot] |>.2.defer ⟨0⟩ |>.2.dontSkip dot
    |>.2.noBacktrack |>.2.transform ⟨1⟩ [dot, content] |>.2.transform ⟨1⟩ [wrapped, marker, unit]
    |>.2.null ⟨0⟩ |>.2.opt unit |>.2.opt perhapsUnit |>.2.transform ⟨0⟩ [] |>.2.opt empty
    |>.2.transform ⟨1⟩ [dot, absent] |>.2.transform ⟨1⟩ [absent, dot] |>.2.opt absent
    |>.2.transform ⟨1⟩ [perhapsAbsent] |>.2.pick [dot, content] 1 |>.2.opt dotted
    |>.2.transform ⟨1⟩ [perhapsDotted] |>.2.optBool dot ⟨⟨2⟩, ⟨3⟩, ⟨4⟩⟩
    |>.2.optBool dot ⟨⟨2⟩, ⟨4⟩, ⟨3⟩⟩ |>.2.optTolerant dot |>.2.transform ⟨1⟩ [flag, tolerant]
    |>.2.transform ⟨1⟩ [tolerant, flag] |>.2.dontSkip wrapped |>.2.transform ⟨0⟩ [rewrapped]
    |>.2.list ⟨5⟩ marker (some dot) |>.2.list ⟨5⟩ dot none |>.2.token .termination (some "end")
    |>.2.pick [content, stop] 0 |>.2.transform ⟨1⟩ [stopped] |>.2.transform ⟨1⟩ [content]
    |>.2.addRule "unit" unit |>.2

/-- The producers that are compared. -/
def producers : List Parser :=
  [box, markedBox, unit, absent, perhapsTwice, perhapsEmpty, dotFirst, dotLast, absentBox,
    dottedBox, flagFirst, flagLast, flag, flagUnset, hidden, separated, dots, stoppedBox, bareBox]

/-- What both boxes derive. -/
def written : NodeUnparser := .regular
  { node := ⟨1⟩, pre := [⟨0⟩], fields := [{ node := ⟨1⟩, field := ⟨0⟩, alwaysAbsent := false }],
    inter := [], post := [] }

/-- The table of one dot. -/
def table : TokenTable := { tokens := #[⟨⟨⟨1⟩, none⟩, "."⟩] }

/-- Two boxes that agree, and whose slots are compared one by one. -/
theorem counterpart : box.Counterpart ⟨1⟩ markedBox := by
  refine .transform (.cons (.inr (.inr (.alike rfl rfl rfl rfl nofun))) (.cons ?_ .nil))
  exact .inr (.inr (.created (by decide) rfl rfl nofun nofun nofun))

/-- Two boxes that agree, though one wraps the dot, holds a marker, and builds its unit in place. -/
theorem sameSlots_of_boxes : grammar.agree [box, markedBox] = true ∧
    grammar.deriveNode ⟨1⟩ box {} = .ok written table ∧
    grammar.deriveNode ⟨1⟩ markedBox table = .ok written table ∧
    written.SameSlots (table.SameKind table) written := by
  have agree : grammar.agree [box, markedBox] = true := by decide +kernel
  have run : grammar.deriveNode ⟨1⟩ box {} = .ok written table :=
    Derivation.attempt_eq_derived.mp (by decide +kernel)
  have run' : grammar.deriveNode ⟨1⟩ markedBox table = .ok written table :=
    Derivation.attempt_eq_derived.mp (by decide +kernel)
  exact ⟨agree, run, run',
    sameSlots_of_agree (faithful_empty _) agree (fun _ => counterpart) run run'⟩

/-- **Agreement alone does not tell the slots**: not those of an absent node against a producer, of
optionals that hold different forms, of a row with an absent node where the other throws a token
away, of a field with one inside, of a boolean optional against another optional, of the two
alternatives of a boolean optional, of a token wrapped twice, of a list whose element is a marker,
nor of a field that drops the end of the input. -/
theorem misjudged : producers.map (grammar.parser? ·.id) = producers.map some ∧
    grammar.Misjudges ⟨0⟩ unit absent ∧ grammar.Misjudges ⟨0⟩ perhapsTwice perhapsEmpty ∧
    grammar.Misjudges ⟨1⟩ dotFirst dotLast ∧ grammar.Misjudges ⟨1⟩ absentBox dottedBox ∧
    grammar.Misjudges ⟨1⟩ flagFirst flagLast ∧ grammar.Misjudges ⟨3⟩ flag flagUnset ∧
    grammar.Misjudges ⟨0⟩ unit hidden ∧ grammar.Misjudges ⟨5⟩ separated dots ∧
    grammar.Misjudges ⟨1⟩ stoppedBox bareBox :=
  ⟨rfl, by decide +kernel⟩

end Boxes

end Unparsing
