import Mathlib.Data.List.Nodup
import Unparsing.Proofs.Grammar.Ancestry
import Unparsing.Proofs.Grammar.Built

/-!
# Proofs/Grammar/Taxonomy — the laws of a taxonomy that was declared step by step

A node type derives from a type declared before it, and a field belongs to one type, which may get
it at any time, also after other types derive from it (`NodeTypes.Built`).  Two invariants carry
this through all declarations (`NodeTypes.Sound`): bases have smaller numbers, and each field of a
type names the type as its owner.  Hence following bases comes to an end
(`NodeTypes.Sound.climb_eq`) and no field is inherited twice (`NodeTypes.Sound.nodup_parseFields`).
-/

namespace Unparsing

namespace NodeTypes

variable {ns ns' : NodeTypes} {n : NodeId} {f : FieldId}

/-- A taxonomy that was declared step by step, from nothing. -/
inductive Built : NodeTypes → Prop
  | empty : Built {}
  | step {ns ns' : NodeTypes} : Built ns → ns.Step ns' → Built ns'

/-- A type followed by its ancestors, found by following bases for as long as there is one, wherever
they lead.  There is no answer if that takes more than `depth` types, or leads to a number that no
type has. -/
def climb (ns : NodeTypes) : (depth : Nat) → NodeId → Option (List NodeId)
  | 0, _ => none
  | depth + 1, id => do
    match (← ns.get? id).base with
    | none => return [id]
    | some base => return id :: (← ns.climb depth base)

/-- The type that declares a field. -/
def owner? (ns : NodeTypes) (f : FieldId) : Option NodeId := (ns.field? f).map (·.owner)

/-! ## Declarations -/

/-- What holds of bases and fields whatever has been declared. -/
structure Sound (ns : NodeTypes) : Prop where
  based (n base : NodeId) : ns.base? n = some base → base.raw < n.raw
  owned (n : NodeId) : ∀ f ∈ ns.ownFields n, ns.owner? f = some n
  nodup (n : NodeId) : (ns.ownFields n).Nodup

theorem sound_empty : Sound {} where
  based n base h := by simp [base?, get?] at h
  owned n f h := by simp [ownFields, get?] at h
  nodup n := by simp [ownFields, get?]

/-- A new type without fields keeps a taxonomy sound, if its base is declared. -/
theorem Sound.push (h : ns.Sound) {type : NodeType} (own : type.ownFields = [])
    (declared : ∀ b ∈ type.base, b ∈ ns.ids) : Sound { ns with types := ns.types.push type } := by
  have fields (n : NodeId) :
      ownFields { ns with types := ns.types.push type } n = ns.ownFields n := by
    simp only [ownFields, get?, Array.getElem?_push]
    split
    next last => simp [last, own]
    next => rfl
  refine ⟨fun n base based => ?_, fun n => fields n ▸ h.owned n, fun n => fields n ▸ h.nodup n⟩
  simp only [base?, get?, Array.getElem?_push] at based
  split at based
  next last => exact last ▸ Index.mem_upTo.mp (declared base based)
  next => exact h.based n base based

/-- A change to a type that leaves its base and its fields alone keeps a taxonomy sound. -/
theorem Sound.modify (h : ns.Sound) (i : Nat) {change : NodeType → NodeType}
    (base : ∀ type, (change type).base = type.base)
    (own : ∀ type, (change type).ownFields = type.ownFields) :
    Sound { ns with types := ns.types.modify i change } := by
  have bases (n : NodeId) : base? { ns with types := ns.types.modify i change } n = ns.base? n := by
    simp only [base?, get?, Array.getElem?_modify]
    split
    · cases ns.types[n.raw]? <;> simp [base]
    · rfl
  have fields (n : NodeId) :
      ownFields { ns with types := ns.types.modify i change } n = ns.ownFields n := by
    simp only [ownFields, get?, Array.getElem?_modify]
    split
    · cases ns.types[n.raw]? <;> simp [own]
    · rfl
  exact ⟨fun n b based => h.based n b (bases n ▸ based), fun n => fields n ▸ h.owned n,
    fun n => fields n ▸ h.nodup n⟩

/-- A new field stands after those that its owner has, and in no other type. -/
theorem ownFields_addField (ns : NodeTypes) (owner : NodeId) (name : String) (n : NodeId) :
    (ns.addField owner name).2.ownFields n = ns.ownFields n ∨
      n = owner ∧
        (ns.addField owner name).2.ownFields n = ns.ownFields n ++ [⟨ns.fields.size⟩] := by
  simp only [addField, ownFields, get?, Array.getElem?_modify]
  split
  next here =>
    cases ns.types[n.raw]? with
    | none => exact .inl rfl
    | some type => exact .inr ⟨congrArg Index.mk here.symm, rfl⟩
  next => exact .inl rfl

theorem owner?_addField_of_owner? {owner : NodeId} {name : String} (h : ns.owner? f = some n) :
    (ns.addField owner name).2.owner? f = some n := by
  obtain ⟨field, found, rfl⟩ := Option.map_eq_some_iff.mp h
  obtain ⟨lt, -⟩ := Array.getElem?_eq_some_iff.mp found
  rw [field?] at found
  simp [owner?, field?, addField, Array.getElem?_push, Nat.ne_of_lt lt, found]

theorem Sound.addField (h : ns.Sound) (owner : NodeId) (name : String) :
    (ns.addField owner name).2.Sound := by
  have fresh (n : NodeId) : ⟨ns.fields.size⟩ ∉ ns.ownFields n := fun old => by
    have owned := h.owned n _ old
    simp [owner?, field?] at owned
  refine ⟨fun n base based => ?_, fun n f hf => ?_, fun n => ?_⟩
  · refine h.based n base ?_
    simp only [base?, get?, NodeTypes.addField, Array.getElem?_modify] at based ⊢
    split at based
    · rwa [Option.bind_map] at based
    · exact based
  · obtain same | ⟨rfl, more⟩ := ns.ownFields_addField owner name n
    · exact owner?_addField_of_owner? (h.owned n f (same ▸ hf))
    · rw [more, List.mem_append, List.mem_singleton] at hf
      obtain old | rfl := hf
      · exact owner?_addField_of_owner? (h.owned n f old)
      · simp [owner?, field?, NodeTypes.addField]
  · obtain same | ⟨rfl, more⟩ := ns.ownFields_addField owner name n
    · exact same ▸ h.nodup n
    · rw [more, List.nodup_append]
      refine ⟨h.nodup n, List.nodup_singleton _, fun f hf f' hf' => ?_⟩
      cases List.mem_singleton.mp hf'
      exact fun same => fresh n (same ▸ hf)

theorem Sound.declare (h : ns.Sound) (name : String) {base : Option NodeId} (traits : NodeTraits)
    (declared : ∀ b ∈ base, b ∈ ns.ids) : (ns.declare name base traits).2.Sound :=
  h.push rfl declared

/-- **Every declaration keeps a taxonomy sound.** -/
theorem Step.sound (step : ns.Step ns') (h : ns.Sound) : ns'.Sound := by
  cases step with
  | declare name base traits declared => exact h.declare name traits declared
  | addField owner name => exact h.addField owner name
  | declareList name element traits =>
    refine h.push rfl fun b hb => ?_
    cases hb
  | listOf element =>
    unfold NodeTypes.listOf
    split
    · exact h
    · refine Sound.modify (h.push rfl fun b hb => ?_) _ (fun _ => rfl) fun _ => rfl
      cases hb
  | declareBool name =>
    refine ((h.declare name _ fun b hb => ?_).declare _ _ ?_).declare _ _ ?_
    · cases hb
    all_goals
      rintro b ⟨⟩
      simp +arith [ids, size, NodeTypes.declare]

theorem Built.sound (h : ns.Built) : ns.Sound := by
  induction h with
  | empty => exact sound_empty
  | step _ step ih => exact step.sound ih

/-! ## Ancestors -/

theorem Sound.ancestry_eq (h : ns.Sound) (n : NodeId) :
    ns.ancestry n = n :: (ns.base? n).elim [] ns.ancestry := by
  cases based : ns.base? n with
  | none => exact ancestry_of_base?_eq_none based
  | some base => exact ancestry_of_base?_eq_some based (h.based n base based)

/-- **Following bases comes to an end**, with the ancestors of the type, after no more types than
have been declared up to it. -/
theorem Sound.climb_eq (h : ns.Sound) {depth : Nat} (declared : n ∈ ns.ids)
    (enough : n.raw < depth) : ns.climb depth n = some (ns.ancestry n) := by
  induction depth generalizing n with
  | zero => cases enough
  | succ depth ih =>
    have bound : n.raw < ns.size := Index.mem_upTo.mp declared
    obtain ⟨type, found⟩ : ∃ type, ns.get? n = some type := ⟨_, Array.getElem?_eq_getElem bound⟩
    have base : ns.base? n = type.base := by simp [base?, found]
    rw [climb, h.ancestry_eq, base, found]
    cases based : type.base with
    | none => simp [based]
    | some b =>
      have lt := h.based n b (base.trans based)
      have rest := ih (Index.mem_upTo.mpr (Nat.lt_trans lt bound)) (by omega)
      simp [based, rest]

theorem nodup_ancestry (ns : NodeTypes) (n : NodeId) : (ns.ancestry n).Nodup :=
  (ns.pairwise_ancestry n).imp fun lt same => Nat.ne_of_gt lt (congrArg Index.raw same)

/-! ## Fields -/

/-- The fields of a type are those of its base, followed by its own. -/
theorem Sound.parseFields_eq (h : ns.Sound) (n : NodeId) :
    ns.parseFields n = (ns.base? n).elim [] ns.parseFields ++ ns.ownFields n := by
  rw [parseFields, h.ancestry_eq, List.reverse_cons, List.flatMap_append, List.flatMap_singleton]
  cases ns.base? n <;> rfl

theorem mem_parseFields : f ∈ ns.parseFields n ↔ ∃ m ∈ ns.ancestry n, f ∈ ns.ownFields m := by
  simp [parseFields, List.mem_flatMap]

/-- **No field is inherited twice**: the types that an ancestry lists share no field. -/
theorem Sound.nodup_parseFields (h : ns.Sound) (n : NodeId) : (ns.parseFields n).Nodup := by
  rw [parseFields, List.nodup_flatMap]
  refine ⟨fun m _ => h.nodup m, (List.nodup_reverse.mpr (ns.nodup_ancestry n)).imp ?_⟩
  intro m m' differ f hf hf'
  exact differ (Option.some.inj ((h.owned m f hf).symm.trans (h.owned m' f hf')))

/-! ## The laws -/

/-- **The laws of a taxonomy.**  Following bases ends with the ancestors of a type, whose numbers
fall.  A type has the fields of its base and then its own, each once and owned by an ancestor.  Two
types meet in the closest of their common ancestors, if they have any; meeting is commutative,
associative and idempotent. -/
theorem taxonomy_laws (h : ns.Built) :
    (∀ n ∈ ns.ids, (∀ depth > n.raw, ns.climb depth n = some (ns.ancestry n)) ∧
      (ns.ancestry n).Pairwise (fun a b => b.raw < a.raw) ∧ (ns.ancestry n).Nodup) ∧
    (∀ n ∈ ns.ids, ns.parseFields n = (ns.base? n).elim [] ns.parseFields ++ ns.ownFields n ∧
      (ns.parseFields n).Nodup ∧
      ∀ f ∈ ns.parseFields n, ∃ owner ∈ ns.ancestry n, ns.owner? f = some owner) ∧
    (∀ a b c, ns.commonAncestor a b = some c ↔ c ∈ ns.ancestry a ∧ c ∈ ns.ancestry b ∧
      ∀ d ∈ ns.ancestry a, d ∈ ns.ancestry b → d ∈ ns.ancestry c) ∧
    (∀ a b, ns.commonAncestor a b = none ↔ (ns.ancestry a).Disjoint (ns.ancestry b)) ∧
    (∀ a b, ns.commonAncestor a b = ns.commonAncestor b a) ∧
    (∀ a b c, (ns.commonAncestor a b).bind (ns.commonAncestor · c) =
      (ns.commonAncestor b c).bind (ns.commonAncestor a)) ∧
    ∀ a, ns.commonAncestor a a = some a := by
  refine ⟨fun n declared => ⟨fun depth => h.sound.climb_eq declared, ns.pairwise_ancestry n,
      ns.nodup_ancestry n⟩,
    fun n _ => ⟨h.sound.parseFields_eq n, h.sound.nodup_parseFields n, fun f hf => ?_⟩,
    fun a b c => ⟨fun meet => ?_, fun ⟨ha, hb, closest⟩ => ?_⟩, fun a b => ?_,
    ns.commonAncestor_comm, ns.commonAncestor_assoc, ns.commonAncestor_self⟩
  · obtain ⟨m, hm, own⟩ := mem_parseFields.mp hf
    exact ⟨m, hm, h.sound.owned m f own⟩
  · obtain ⟨ha, hb⟩ := mem_ancestry_of_commonAncestor meet
    exact ⟨ha, hb, fun d hda hdb => (mem_ancestry_iff_of_commonAncestor meet).mpr ⟨hda, hdb⟩⟩
  · refine commonAncestor_eq_some_iff.mpr fun d =>
      ⟨fun hd => ?_, fun ⟨hda, hdb⟩ => closest d hda hdb⟩
    exact ⟨mem_ancestry_trans ha hd, mem_ancestry_trans hb hd⟩
  · exact commonAncestor_eq_none_iff

end NodeTypes

/-! ### Calls and names

`Call` and `Name` derive from `Expr`; `Expr` gets a field when `Call` has one already. -/

namespace Kinships

/-- Expressions. -/
def expr : NodeId := ⟨0⟩

/-- Calls, which are expressions. -/
def call : NodeId := ⟨1⟩

/-- Names, which are expressions. -/
def name : NodeId := ⟨2⟩

/-- The arguments of a call. -/
def arguments : FieldId := ⟨0⟩

/-- The span of an expression. -/
def span : FieldId := ⟨1⟩

/-- The types, each declared over the ones before. -/
def declared : NodeTypes :=
  let (expr, ns) := NodeTypes.declare {} "Expr" none { abstract := true }
  let (call, ns) := ns.declare "Call" (some expr) {}
  (ns.declare "Name" (some expr) {}).2.addField call "arguments" |>.2

/-- The taxonomy, with the late field, a list of expressions and a flag. -/
def taxonomy : NodeTypes := (((declared.addField expr "span").2.listOf expr).2.declareBool "Flag").2

theorem built : taxonomy.Built :=
  NodeTypes.Built.empty
    |>.step (.declare "Expr" none { abstract := true } nofun)
    |>.step (.declare "Call" (some expr) {} (by decide))
    |>.step (.declare "Name" (some expr) {} (by decide))
    |>.step (.addField call "arguments" (by decide))
    |>.step (.addField expr "span" (by decide))
    |>.step (.listOf expr (by decide))
    |>.step (.declareBool "Flag")

/-- The late field of `Expr` is the first field of `Call`, and a call meets a name in `Expr`. -/
theorem taxonomy_laws_of_call : taxonomy.Built ∧ taxonomy.climb 2 call = some [call, expr] ∧
    taxonomy.parseFields call = [span, arguments] ∧
    taxonomy.commonAncestor call name = some expr := by
  obtain ⟨chains, fields, meets, -⟩ := NodeTypes.taxonomy_laws built
  have root : taxonomy.ancestry expr = [expr] := NodeTypes.ancestry_of_base?_eq_none (by decide)
  have derived (n : NodeId) (based : taxonomy.base? n = some expr) (lt : expr.raw < n.raw) :
      taxonomy.ancestry n = [n, expr] := by
    rw [NodeTypes.ancestry_of_base?_eq_some based lt, root]
  have calls : taxonomy.ancestry call = [call, expr] := derived call (by decide) (by decide)
  have names : taxonomy.ancestry name = [name, expr] := derived name (by decide) (by decide)
  refine ⟨built, calls ▸ (chains call (by decide)).1 2 (by decide), ?_,
    (meets call name expr).mpr ?_⟩
  · have inherited := (fields expr (by decide)).1
    rw [(fields call (by decide)).1, show taxonomy.base? call = some expr by decide,
      Option.elim_some, inherited]
    decide
  · rw [calls, names, root]
    decide

end Kinships

end Unparsing
