import Unparsing.Proofs.Derivation.Written
import Unparsing.Proofs.Grammar.NodeCreation
import Unparsing.Proofs.Grammar.Pairs

/-!
# Proofs/Derivation/Facing — agreement puts the tokens of two parsers in the same slots

The comparison walks down two trees slot by slot, while a derivation splits each into runs around
fields.  Parsers in facing slots (`Parser.Faces`) that agree are both runs or both fields, with
tokens of the same kinds in the same places (`Parser.Faces.alike`).  So rows that agree are split
alike around what they keep (`Parser.layout_alike`).

What agreement does not look at is asked of `Parser.Faces`: a parser under two wrappers, whose
tokens are not written; an absent node; a boolean optional facing another optional; the end of the
input, which a parser may drop and yet create a node.
-/

namespace Unparsing

namespace Parser

variable {g : Grammar} {p q : Parser} {before after before' after' : List Parser}

/-! ## Runs and fields -/

/-- The parser has a place in an unparser: as a run, or as a field. -/
def Placed (p : Parser) : Prop := p.IsRun ∨ ∃ before after, p.IsField before after

/-- What has its place as a field has none as a run. -/
theorem IsField.not_isRun (h : p.IsField before after) : ¬p.IsRun := by
  intro run
  induction h with
  | @bare p bare none => cases run <;> cases bare
  | opt _ ih =>
    cases run with
    | opt run => exact ih run
  | pick => cases run
  | dontSkip single _ ih =>
    cases run with
    | dontSkip run => exact ih (run single)

/-- A single wrapper around a run is a run. -/
theorem isRun_dontSkip {id : ParserId} {inner : Parser} (single : inner.isDontSkip = false) :
    (dontSkip id inner).IsRun ↔ inner.IsRun := by
  refine ⟨fun run => ?_, fun run => .dontSkip fun _ => run⟩
  cases run with
  | dontSkip run => exact run single

/-- A single wrapper around a field is a field, between the same parsers. -/
theorem isField_dontSkip {id : ParserId} {inner : Parser} (single : inner.isDontSkip = false) :
    (dontSkip id inner).IsField before after ↔ inner.IsField before after := by
  refine ⟨fun field => ?_, .dontSkip single⟩
  cases field with
  | bare bare _ => cases bare
  | dontSkip _ field => exact field

/-- A single wrapper around what has a place has one. -/
theorem placed_dontSkip {id : ParserId} {inner : Parser} (single : inner.isDontSkip = false) :
    (dontSkip id inner).Placed ↔ inner.Placed := by
  simp only [Placed, isRun_dontSkip single, isField_dontSkip single]

/-- Of what has a place only one wrapper is looked through. -/
theorem Placed.strip_eq (h : p.Placed) (unwrapped : p.isDontSkip = false) : p.strip = p := by
  cases p with
  | dontSkip => cases unwrapped
  | predicate id inner property =>
    obtain run | ⟨_, _, field⟩ := h
    · cases run
    · cases field with
      | bare bare _ => cases bare
  | _ => rfl

/-- What is filled into a row has a place. -/
theorem InRow.placed (h : p.InRow) : p.Placed := by
  rw [InRow] at h
  split at h
  · exact .inl h
  · exact .inr h

/-- Of what is filled into a row, runs are thrown away and fields are not. -/
theorem InRow.discards_iff (h : p.InRow) : p.discards = true ↔ p.IsRun := by
  rw [InRow] at h
  split at h
  next discards => exact ⟨fun _ => h, fun _ => discards⟩
  next kept =>
    obtain ⟨_, _, field⟩ := h
    exact ⟨fun discards => absurd discards kept, fun run => absurd run field.not_isRun⟩

/-! ## Tokens of the same kinds -/

/-- Two lists of tokens, of the same kinds. -/
abbrev SameKinds : List Parser → List Parser → Prop :=
  List.Forall₂ fun x y => x.tokenKind? = y.tokenKind?

/-- Having the same kinds of tokens works both ways. -/
theorem SameKinds.symm {ps qs : List Parser} (h : SameKinds ps qs) : SameKinds qs ps :=
  h.flip.imp fun _ _ => Eq.symm

/-- **Two parsers are written alike**: both as runs or both as fields, with tokens of the same kinds
in the same places. -/
structure Alike (p q : Parser) : Prop where
  isRun_iff : p.IsRun ↔ q.IsRun
  run : p.IsRun → q.IsRun → SameKinds p.exposed q.exposed
  field {before after before' after' : List Parser} : p.IsField before after →
    q.IsField before' after' → SameKinds before before' ∧ SameKinds after after'

/-- Being alike works both ways. -/
theorem Alike.symm (h : Alike p q) : Alike q p where
  isRun_iff := h.isRun_iff.symm
  run hq hp := (h.run hp hq).symm
  field hq hp := (h.field hp hq).imp .symm .symm

/-- Fields without tokens around them are alike. -/
theorem Alike.of_fields (hp : ¬p.IsRun) (hq : ¬q.IsRun)
    (none : ∀ {before after}, p.IsField before after → before = [] ∧ after = [])
    (none' : ∀ {before after}, q.IsField before after → before = [] ∧ after = []) : Alike p q where
  isRun_iff := iff_of_false hp hq
  run h := absurd h hp
  field h h' := by
    obtain ⟨rfl, rfl⟩ := none h
    obtain ⟨rfl, rfl⟩ := none' h'
    exact ⟨.nil, .nil⟩

/-- A wrapper changes nothing. -/
theorem Alike.dontSkip {id : ParserId} (single : p.isDontSkip = false) (h : Alike p q) :
    Alike (.dontSkip id p) q where
  isRun_iff := (isRun_dontSkip single).trans h.isRun_iff
  run hp hq := by
    rw [exposed_dontSkip, single]
    exact h.run ((isRun_dontSkip single).mp hp) hq
  field hp hq := h.field ((isField_dontSkip single).mp hp) hq

/-- A parser is alike to another if it is under all of its wrappers. -/
theorem Alike.of_strip_left (hp : p.Placed) (single : p.unwrap.isDontSkip = false)
    (h : p.strip.Placed → Alike p.strip q) : Alike p q := by
  cases p with
  | dontSkip id inner =>
    have unwrapped : inner.isDontSkip = false := single
    have placed := (placed_dontSkip unwrapped).mp hp
    rw [strip, placed.strip_eq unwrapped] at h
    exact (h placed).dontSkip unwrapped
  | _ =>
    rw [hp.strip_eq rfl] at h
    exact h hp

/-- So two parsers are alike if they are under all of their wrappers. -/
theorem Alike.of_strip (hp : p.Placed) (hq : q.Placed) (single : p.unwrap.isDontSkip = false)
    (single' : q.unwrap.isDontSkip = false)
    (h : p.strip.Placed → q.strip.Placed → Alike p.strip q.strip) : Alike p q :=
  .of_strip_left hp single fun hp => .symm <| .of_strip_left hq single' fun hq => (h hp hq).symm

/-! ## One combinator -/

/-- Fields that stand on their own are alike. -/
theorem alike_of_bare (hp : p.isBareField = true) (hq : q.isBareField = true) : Alike p q := by
  have not_isRun {p : Parser} (hp : p.isBareField = true) : ¬p.IsRun := by
    rintro ⟨⟩ <;> cases hp
  have none {p : Parser} (hp : p.isBareField = true) {before after : List Parser}
      (h : p.IsField before after) : before = [] ∧ after = [] := by
    cases h with
    | bare => exact ⟨rfl, rfl⟩
    | _ => cases hp
  exact .of_fields (not_isRun hp) (not_isRun hq) (none hp) (none hq)

/-- Tokens of one kind are alike, whatever their texts. -/
theorem alike_token {id id' : ParserId} {kind kind' : KindId} {text text' : Option String}
    (h : kind = kind') : Alike (token id kind text) (token id' kind' text') where
  isRun_iff := iff_of_true (.token id kind text) (.token id' kind' text')
  run _ _ := .cons (congrArg some h) .nil
  field h _ := absurd (.token id kind text) h.not_isRun

/-- Marks are alike. -/
theorem alike_noBacktrack (id id' : ParserId) : Alike (noBacktrack id) (noBacktrack id') where
  isRun_iff := iff_of_true (.noBacktrack id) (.noBacktrack id')
  run _ _ := .nil
  field h _ := absurd (.noBacktrack id) h.not_isRun

/-- Markers expose no token. -/
theorem flatMap_exposed_filter (items : List Parser) :
    (items.filter (!·.isNoBacktrack)).flatMap exposed = items.flatMap exposed := by
  induction items with
  | nil => rfl
  | cons p ps ih =>
    cases p with
    | noBacktrack id => exact ih
    | _ => exact congrArg (_ ++ ·) ih

/-- Runs that are alike one by one have the same kinds of tokens in all. -/
theorem sameKinds_flatMap {ps qs : List Parser} (h : List.Forall₂ Alike ps qs)
    (hp : ∀ p ∈ ps, p.IsRun) (hq : ∀ q ∈ qs, q.IsRun) :
    SameKinds (ps.flatMap exposed) (qs.flatMap exposed) := by
  have runs : List.Forall₂ (fun p q => SameKinds p.exposed q.exposed) ps qs :=
    forall₂_imp_mem h fun p hp' q hq' alike => alike.run (hp p hp') (hq q hq')
  exact List.rel_flatMap runs fun _ _ same => same

/-- What is told of the slots of two parsers. -/
abbrev AlikeSlots : List Parser → List Parser → Prop :=
  List.Forall₂ fun x y => x.Placed → y.Placed → Alike x y

/-- Slots that are alike where they have a place are so everywhere if all have one. -/
theorem AlikeSlots.forall₂ {ps qs : List Parser} (h : AlikeSlots ps qs) (hp : ∀ p ∈ ps, p.Placed)
    (hq : ∀ q ∈ qs, q.Placed) : List.Forall₂ Alike ps qs :=
  forall₂_imp_mem h fun p hp' q hq' alike => alike (hp p hp') (hq q hq')

/-- Rows with alike slots are alike. -/
theorem alike_row {id id' : ParserId} {items items' : List Parser} (hp : (row id items).Placed)
    (hq : (row id' items').Placed)
    (slots : AlikeSlots (row id items).slots (row id' items').slots) :
    Alike (row id items) (row id' items') := by
  have runs {id : ParserId} {items : List Parser} (h : (row id items).Placed) :
      (row id items).IsRun ∧ ∀ p ∈ items.filter (!·.isNoBacktrack), p.IsRun := by
    obtain run | ⟨_, _, field⟩ := h
    · refine ⟨run, fun p hp => ?_⟩
      cases run with
      | row runs => exact runs p (List.mem_filter.mp hp).1
    · cases field with
      | bare bare _ => cases bare
  have hp := runs hp
  have hq := runs hq
  refine ⟨iff_of_true hp.1 hq.1, fun _ _ => ?_, fun field => absurd hp.1 field.not_isRun⟩
  rw [exposed, exposed, exposedAll_eq_flatMap, exposedAll_eq_flatMap, ← flatMap_exposed_filter,
    ← flatMap_exposed_filter items']
  refine sameKinds_flatMap (slots.forall₂ ?_ ?_) hp.2 hq.2
  · exact fun p h => .inl (hp.2 p h)
  · exact fun q h => .inl (hq.2 q h)

/-- What is told of two lone slots is told of the parsers there, unless both are markers. -/
theorem lone_slot {R : Parser → Parser → Prop}
    (h : List.Forall₂ R ([p].filter (!·.isNoBacktrack)) ([q].filter (!·.isNoBacktrack))) :
    R p q ∨ ∃ id id', p = noBacktrack id ∧ q = noBacktrack id' := by
  cases marker : p.isNoBacktrack <;> cases marker' : q.isNoBacktrack <;>
    simp only [List.filter_singleton, marker, marker', Bool.not_true, Bool.not_false, cond_true,
      cond_false] at h
  · cases h with
    | cons here _ => exact .inl here
  · cases h
  · cases h
  · cases p <;> cases marker
    cases q <;> cases marker'
    exact .inr ⟨_, _, rfl, rfl⟩

/-- Parsers that are the only slots of two rows are alike if those are. -/
theorem alike_of_lone_slot {R : Parser → Parser → Prop}
    (h : List.Forall₂ R ([p].filter (!·.isNoBacktrack)) ([q].filter (!·.isNoBacktrack)))
    (alike : R p q → Alike p q) : Alike p q := by
  obtain here | ⟨id, id', rfl, rfl⟩ := lone_slot h
  · exact alike here
  · exact alike_noBacktrack id id'

/-- An optional is the field that its inner parser is. -/
theorem isField_opt {id : ParserId} {inner : Parser} {tolerant : Bool} :
    (opt id inner tolerant).IsField before after ↔ inner.IsField before after := by
  refine ⟨fun field => ?_, .opt⟩
  cases field with
  | bare bare _ => cases bare
  | opt field => exact field

theorem Placed.inner {id : ParserId} {inner : Parser} {tolerant : Bool}
    (h : (opt id inner tolerant).Placed) : inner.Placed := by
  obtain run | ⟨_, _, field⟩ := h
  · cases run with
    | opt run => exact .inl run
  · exact .inr ⟨_, _, isField_opt.mp field⟩

theorem Placed.isRun_opt_iff {id : ParserId} {inner : Parser} {tolerant : Bool}
    (h : (opt id inner tolerant).Placed) : (opt id inner tolerant).IsRun ↔ inner.IsRun := by
  obtain run | ⟨_, _, field⟩ := h
  · refine iff_of_true run ?_
    cases run with
    | opt run => exact run
  · exact iff_of_false field.not_isRun (isField_opt.mp field).not_isRun

/-- Optionals with alike slots are alike. -/
theorem alike_opt {id id' : ParserId} {inner inner' : Parser} {tolerant tolerant' : Bool}
    (hp : (opt id inner tolerant).Placed) (hq : (opt id' inner' tolerant').Placed)
    (slots : AlikeSlots (opt id inner tolerant).slots (opt id' inner' tolerant').slots) :
    Alike (opt id inner tolerant) (opt id' inner' tolerant') := by
  have alike : Alike inner inner' := alike_of_lone_slot slots fun alike => alike hp.inner hq.inner
  exact {
    isRun_iff := hp.isRun_opt_iff.trans (alike.isRun_iff.trans hq.isRun_opt_iff.symm)
    run := fun run run' => alike.run (hp.isRun_opt_iff.mp run) (hq.isRun_opt_iff.mp run')
    field := fun field field' => alike.field (isField_opt.mp field) (isField_opt.mp field') }

/-- The slots of a pick, split around the item picked. -/
theorem slots_of_isField_pick {id rowId : ParserId} {items : List Parser} {index : Nat}
    (h : (pick id rowId items index).IsField before after) :
    ∃ as item bs before' after', (pick id rowId items index).slots = as ++ item :: bs ∧
      (∀ p ∈ as, p.IsRun) ∧ (∀ p ∈ bs, p.IsRun) ∧ item.IsField before' after' ∧
      before = as.flatMap exposed ++ before' ∧ after = after' ++ bs.flatMap exposed := by
  cases h with
  | bare bare _ => cases bare
  | @pick _ _ _ _ item before' after' found runs runs' field =>
    refine ⟨(items.take index).filter (!·.isNoBacktrack), item,
      (items.drop (index + 1)).filter (!·.isNoBacktrack), before', after', ?_,
      fun p hp => runs p (List.mem_filter.mp hp).1, fun p hp => runs' p (List.mem_filter.mp hp).1,
      field, by rw [flatMap_exposed_filter], by rw [flatMap_exposed_filter]⟩
    have kept : item.isNoBacktrack = false := by
      cases item with
      | noBacktrack id => exact absurd (.noBacktrack id) field.not_isRun
      | _ => rfl
    obtain ⟨lt, rfl⟩ := List.getElem?_eq_some_iff.mp found
    conv_lhs => rw [slots, ← List.take_append_drop index items, List.drop_eq_getElem_cons lt]
    rw [List.filter_append, List.filter_cons, kept]
    rfl

/-- Picks with alike slots are alike. -/
theorem alike_pick {id id' rowId rowId' : ParserId} {items items' : List Parser}
    {index index' : Nat}
    (slots : AlikeSlots (pick id rowId items index).slots (pick id' rowId' items' index').slots) :
    Alike (pick id rowId items index) (pick id' rowId' items' index') where
  isRun_iff := iff_of_false nofun nofun
  run := nofun
  field h h' := by
    obtain ⟨as, item, bs, _, _, split, has, hbs, field, rfl, rfl⟩ := slots_of_isField_pick h
    obtain ⟨cs, item', ds, _, _, split', hcs, hds, field', rfl, rfl⟩ := slots_of_isField_pick h'
    rw [split, split'] at slots
    have placed {as bs : List Parser} {item : Parser} (has : ∀ p ∈ as, p.IsRun)
        (hbs : ∀ p ∈ bs, p.IsRun) (field : item.Placed) : ∀ p ∈ as ++ item :: bs, p.Placed := by
      simp only [List.forall_mem_append, List.forall_mem_cons]
      exact ⟨fun p hp => .inl (has p hp), field, fun p hp => .inl (hbs p hp)⟩
    have alike := slots.forall₂ (placed has hbs (.inr ⟨_, _, field⟩))
      (placed hcs hds (.inr ⟨_, _, field'⟩))
    -- The item picked is the one that is not a run, so both stand in the same slot.
    obtain ⟨left, here, right⟩ := forall₂_append_cons alike (fun _ _ h => h.isRun_iff) has hcs
      field.not_isRun field'.not_isRun
    obtain ⟨before, after⟩ := here.field field field'
    exact ⟨List.rel_append (sameKinds_flatMap left has hcs) before,
      List.rel_append after (sameKinds_flatMap right hbs hds)⟩

/-! ## Facing slots -/

/-- A field whose parser creates a node has no token around it but the end of the input. -/
theorem IsField.isTermination_of_createsNodeWith (ofRule : RuleId → Yield)
    (h : p.IsField before after) (creates : p.createsNodeWith ofRule = true) :
    ∀ x ∈ before ++ after, x.isTermination = true := by
  induction h with
  | bare => exact nofun
  | opt _ ih => exact ih creates
  | @pick id rowId items index item before after found _ _ field ih =>
    obtain ⟨inner, last, rfl, ending, inside⟩ := pick_of_createsNodeWith creates
    obtain ⟨id, kind, text, rfl⟩ : ∃ id kind text, last = token id kind text := by
      cases last <;> first | exact ⟨_, _, _, rfl⟩ | cases ending
    obtain _ | _ | index := index
    · cases found
      have around := ih inside
      simp only [List.forall_mem_append] at around ⊢
      simpa [exposed, ending] using around
    · cases found
      exact absurd (.token id kind text) field.not_isRun
    · cases found
  | dontSkip _ _ ih => exact ih creates

/-- **Two parsers in facing slots**, whose agreement tells that they are written alike. -/
inductive Faces : Parser → Parser → Prop
  /-- Combinators of one kind, wrapped once at most.  What they hold faces each other, unless they
  build nodes of their own; a boolean optional builds one, and another optional does not. -/
  | alike {p q : Parser} : p.unwrap.isDontSkip = false → q.unwrap.isDontSkip = false →
      p.strip.kind = q.strip.kind → p.strip.isProducer = q.strip.isProducer →
      (p.strip.isProducer = false → ∀ (i : Nat) (x y : Parser), p.strip.slots[i]? = some x →
        q.strip.slots[i]? = some y → Faces x y) → Faces p q
  /-- Combinators of two kinds, which are compared only in that they create nodes.  Neither drops
  the end of the input. -/
  | created {p q : Parser} : p.strip.kind ≠ q.strip.kind → p.strip.isNull = false →
      q.strip.isNull = false → ¬p.IsRun → ¬q.IsRun →
      (∀ x ∈ p.exposed ++ q.exposed, x.isTermination = false) → Faces p q
  /-- An absent node, and anything that fills a field and has no token to be put around it. -/
  | absent {p q : Parser} : p.strip.isNull = true → ¬p.IsRun → ¬q.IsRun → q.exposed = [] → Faces p q
  /-- The same, the other way around. -/
  | absent_right {p q : Parser} : q.strip.isNull = true → ¬p.IsRun → ¬q.IsRun → p.exposed = [] →
      Faces p q

/-- An absent node exposes no tokens. -/
theorem exposed_of_isNull (h : p.strip.isNull = true) : p.exposed = [] := by
  induction p using Parser.induction with
  | null => rfl
  | predicate id inner property ih => exact ih h
  | dontSkip id inner ih =>
    rw [exposed_dontSkip]
    split
    · rfl
    · exact ih h
  | _ => cases h

theorem Alike.of_exposed (hp : ¬p.IsRun) (hq : ¬q.IsRun) (none : p.exposed = [])
    (none' : q.exposed = []) : Alike p q :=
  .of_fields hp hq (fun field => List.append_eq_nil_iff.mp (field.exposed_eq.symm.trans none))
    fun field => List.append_eq_nil_iff.mp (field.exposed_eq.symm.trans none')

/-- Under all wrappers there is no wrapper. -/
theorem isDontSkip_strip (p : Parser) : p.strip.isDontSkip = false := by
  fun_induction strip p with
  | case1 id inner ih => exact ih
  | case2 id inner property ih => exact ih
  | case3 p unwrapped => cases p <;> first | rfl | exact absurd rfl (unwrapped _ _)

/-- What is a field is one under all of its wrappers. -/
theorem IsField.strip (h : p.IsField before after) : p.strip.IsField before after := by
  cases unwrapped : p.isDontSkip with
  | false => rwa [Placed.strip_eq (.inr ⟨_, _, h⟩) unwrapped]
  | true =>
    cases h with
    | dontSkip single field => rwa [Parser.strip, Placed.strip_eq (.inr ⟨_, _, field⟩) single]
    | bare bare =>
      cases p with
      | dontSkip => cases bare
      | _ => cases unwrapped
    | opt | pick => cases unwrapped

/-- A field whose parser is known to create a node exposes no token but the end of the input. -/
theorem IsField.isTermination_of_resolvesToNode (h : p.IsField before after)
    (resolves : g.resolvesToNode p = true) : ∀ x ∈ before ++ after, x.isTermination = true := by
  cases p with
  | defer =>
    cases h with
    | bare => exact nofun
  | _ => exact h.isTermination_of_createsNodeWith (g.ruleYield g.rules.size []) resolves

/-- A field that comes down to a node exposes no tokens but the end of the input. -/
theorem exposed_of_resolvesToNode (placed : p.Placed) (field : ¬p.IsRun)
    (resolves : g.resolvesToNode p.strip = true)
    (ending : ∀ x ∈ p.exposed, x.isTermination = false) : p.exposed = [] := by
  obtain ⟨_, _, field⟩ := placed.resolve_left field
  rw [field.exposed_eq] at ending ⊢
  refine List.eq_nil_iff_forall_not_mem.mpr fun x hx => ?_
  have terminates := field.strip.isTermination_of_resolvesToNode resolves x hx
  rw [ending x hx] at terminates
  cases terminates

/-- The comparison of two combinators of one kind, from that of their slots. -/
theorem alike_of_slots (hp : p.Placed) (hq : q.Placed) (unwrapped : p.isDontSkip = false)
    (kinds : p.kind = q.kind) (producers : p.isProducer = q.isProducer)
    (tokens : p.tokenKind? = q.tokenKind?)
    (slots : p.isProducer = false → AlikeSlots p.slots q.slots) : Alike p q := by
  cases p with
  | row id items =>
    cases q with
    | row => exact alike_row hp hq (slots rfl)
    | _ => cases kinds
  | opt id inner tolerant =>
    cases q with
    | opt => exact alike_opt hp hq (slots rfl)
    | optBool => cases producers
    | _ => cases kinds
  | pick =>
    cases q with
    | pick => exact alike_pick (slots rfl)
    | _ => cases kinds
  | token =>
    cases q with
    | token => exact alike_token (Option.some.inj tokens)
    | _ => cases kinds
  | noBacktrack =>
    cases q with
    | noBacktrack => exact alike_noBacktrack _ _
    | _ => cases kinds
  | predicate | skip =>
    obtain ⟨⟨⟩⟩ | ⟨_, _, ⟨⟨⟩, _⟩⟩ := hp
  | dontSkip => cases unwrapped
  | optBool =>
    cases q with
    | optBool => exact alike_of_bare rfl rfl
    | opt => cases producers
    | _ => cases kinds
  | transform | list | choice | defer | null =>
    cases q <;> first | exact alike_of_bare rfl rfl | cases kinds

/-- **Parsers in facing slots that agree are written alike.** -/
theorem alike_of_agreeAt (faces : Faces p q) (agree : g.agreeAt false [p, q] = true)
    (hp : p.Placed) (hq : q.Placed) : Alike p q := by
  induction faces with
  | alike single single' kinds producers _ ih =>
    refine .of_strip hp hq single single' fun hp hq => alike_of_slots hp hq (isDontSkip_strip _)
      kinds producers (g.tokenKind?_of_agreeAt agree kinds) fun inside => ?_
    have agrees := Grammar.agreeAt_slots agree kinds
    refine List.forall₂_iff_get.mpr ⟨agrees.length_eq, fun i hi hj => ?_⟩
    exact ih inside i _ _ (List.getElem?_eq_getElem hi) (List.getElem?_eq_getElem hj)
      (agrees.get hi hj)
  | created kinds absent absent' field field' ending =>
    obtain ⟨-, creates, creates'⟩ := Grammar.resolvesToNode_of_agreeAt agree absent absent' kinds
    rw [List.forall_mem_append] at ending
    exact .of_exposed field field' (exposed_of_resolvesToNode hp field creates ending.1)
      (exposed_of_resolvesToNode hq field' creates' ending.2)
  | absent absent field field' none =>
    exact .of_exposed field field' (exposed_of_isNull absent) none
  | absent_right absent field field' none =>
    exact .of_exposed field field' none (exposed_of_isNull absent)

/-! ## Rows -/

/-- Two items in the same slot of rows.  An absent node may stand for a field there, since it tells
nothing about it. -/
def FacesInRow (p q : Parser) : Prop :=
  p.strip.isNull = true ∧ q.discards = false ∨ q.strip.isNull = true ∧ p.discards = false ∨
    Faces p q

/-- Two items kept in rows, each with the tokens after it. -/
def AlikePart (a b : Parser × List Parser) : Prop :=
  (a.1.strip.isNull = true ∨ b.1.strip.isNull = true ∨ Alike a.1 b.1) ∧ SameKinds a.2 b.2

/-- An absent node is not thrown away. -/
theorem discards_of_isNull (h : p.strip.isNull = true) : p.discards = false := by
  induction p using Parser.induction with
  | null | predicate => rfl
  | dontSkip id inner ih => exact ih h
  | _ => cases h

/-- Two items in the same slot are both thrown away, or both kept. -/
theorem FacesInRow.item (h : FacesInRow p q) (agree : g.agreeAt false [p, q] = true)
    (hp : p.InRow) (hq : q.InRow) :
    p.discards = true ∧ q.discards = true ∧ SameKinds p.exposed q.exposed ∨
      p.discards = false ∧ q.discards = false ∧
        (p.strip.isNull = true ∨ q.strip.isNull = true ∨ Alike p q) := by
  obtain ⟨absent, kept⟩ | ⟨absent, kept⟩ | faces := h
  · exact .inr ⟨discards_of_isNull absent, kept, .inl absent⟩
  · exact .inr ⟨kept, discards_of_isNull absent, .inr (.inl absent)⟩
  · have alike := alike_of_agreeAt faces agree hp.placed hq.placed
    cases discards : p.discards with
    | true =>
      have run := hp.discards_iff.mp discards
      have run' := alike.isRun_iff.mp run
      exact .inl ⟨rfl, hq.discards_iff.mpr run', alike.run run run'⟩
    | false =>
      refine .inr ⟨rfl, Bool.eq_false_iff.mpr fun discards' => ?_, .inr (.inr alike)⟩
      have run := alike.isRun_iff.mpr (hq.discards_iff.mp discards')
      rw [hp.discards_iff.mpr run] at discards
      cases discards

/-- Markers leave no trace in a layout. -/
theorem layout_filter (items : List Parser) :
    layout (items.filter (!·.isNoBacktrack)) = layout items := by
  induction items with
  | nil => rfl
  | cons p ps ih =>
    cases p with
    | noBacktrack id => exact ih
    | _ => rw [List.filter_cons_of_pos rfl, layout, layout, ih]

/-- **Rows that agree are split alike**: the runs are of the same kinds of tokens, and the items
kept stand in the same places. -/
theorem layout_alike {ps qs : List Parser}
    (faces : List.Forall₂ (fun p q => FacesInRow p q ∧ g.agreeAt false [p, q] = true) ps qs)
    (hp : ∀ p ∈ ps, p.InRow) (hq : ∀ q ∈ qs, q.InRow) :
    SameKinds (layout ps).1 (layout qs).1 ∧
      List.Forall₂ AlikePart (layout ps).2 (layout qs).2 := by
  induction faces with
  | nil => exact ⟨.nil, .nil⟩
  | @cons p q ps qs here _ ih =>
    rw [List.forall_mem_cons] at hp hq
    obtain ⟨lead, parts⟩ := ih hp.2 hq.2
    obtain ⟨discards, discards', same⟩ | ⟨kept, kept', alike⟩ := here.1.item here.2 hp.1 hq.1
    · rw [layout, layout, if_pos discards, if_pos discards']
      exact ⟨List.rel_append same lead, parts⟩
    · rw [layout, layout, if_neg (by simp [kept]), if_neg (by simp [kept'])]
      exact ⟨.nil, .cons ⟨alike, lead⟩ parts⟩

end Parser

end Unparsing
