import DeclWeave.Expansion.Emit
import DeclWeave.Expansion.Synthesis
import DeclWeave.Proofs.Outcome
import DeclWeave.Proofs.WeaveContents

/-!
# Names That Synthesis Adds

Accessors, signals, forwards and donors add members to a plan in turn, and all of them claim names
from the registry of the type, which begins with the names of its members and those it inherits.
None of them renames a member that is there, changes its kind or where it came from: its *label*
stays. So a plan has the labels of its declaration and those of members whose names were free, and
perhaps that of a constructor, which no member had.

## Main results

* `Grows.append`, `Grows.trans`: growth is composed from the growth that each rule brings about.
* `Synthesis.exists_grows_ofDecl`: what the plan of a declaration has, and what it inherits.
* `Synthesis.nodup_memberNames_ofDecl`: the names in a plan are distinct.
* `Synthesis.name_not_mem_ancestry`: what synthesis adds takes no name that is inherited.
-/

namespace DeclWeave

/-! ### Labels and headers -/

namespace Member

/-- What no rule changes about a member: its name, its kind and where it came from. -/
def label (m : Member) : String × MemberKind × Origin :=
  (m.name, m.kind, m.origin)

@[simp] theorem label_withInits (m : Member) (direct : List DirectInit)
    (defaults : List DefaultInit) : (m.withInits direct defaults).label = m.label := rfl

@[simp] theorem label_emit (onInterface : Bool) (m : Member) :
    (m.emit onInterface).label = m.label := rfl

variable {m m' : Member} {ms ms' : List Member}

theorem name_eq_of_label (h : m.label = m'.label) : m.name = m'.name :=
  congrArg Prod.fst h

theorem isField_eq_of_label (h : m.label = m'.label) : m.isField = m'.isField := by
  have hkind : m.kind = m'.kind := congrArg (·.2.1) h
  rw [isField, isField, hkind]

theorem origin_eq_of_label (h : m.label = m'.label) : m.origin = m'.origin :=
  congrArg (·.2.2) h

theorem isConstructor_eq_of_label (h : m.label = m'.label) :
    m.isConstructor = m'.isConstructor := by
  have hkind : m.kind = m'.kind := congrArg (·.2.1) h
  rw [isConstructor, isConstructor, isMethod, isMethod, hkind, name_eq_of_label h]

theorem map_name_eq_map_label (ms : List Member) :
    ms.map (·.name) = (ms.map label).map Prod.fst := by
  rw [List.map_map]
  rfl

theorem map_name_eq_of_label (h : ms.map label = ms'.map label) :
    ms.map (·.name) = ms'.map (·.name) := by
  rw [map_name_eq_map_label, h, ← map_name_eq_map_label]

theorem exists_label_eq (h : ms.map label ⊆ ms'.map label) (hm : m ∈ ms) :
    ∃ m' ∈ ms', m'.label = m.label :=
  List.mem_map.mp (h (List.mem_map_of_mem hm))

end Member

namespace TypeDecl

/-- A declaration without its members. -/
def header (d : TypeDecl) : TypeDecl :=
  { d with members := [] }

@[simp] theorem header_emit (d : TypeDecl) : d.emit.header = d.header := rfl

variable {d e : TypeDecl}

theorem name_eq_of_header (h : d.header = e.header) : d.name = e.name :=
  congrArg (·.name) h

theorem kind_eq_of_header (h : d.header = e.header) : d.kind = e.kind :=
  congrArg (·.kind) h

theorem superclass_eq_of_header (h : d.header = e.header) : d.superclass = e.superclass :=
  congrArg (·.superclass) h

theorem interfaces_eq_of_header (h : d.header = e.header) : d.interfaces = e.interfaces :=
  congrArg (·.interfaces) h

theorem span_eq_of_header (h : d.header = e.header) : d.span = e.span :=
  congrArg (·.span) h

theorem typeParams_eq_of_header (h : d.header = e.header) : d.typeParams = e.typeParams :=
  congrArg (·.typeParams) h

end TypeDecl

/-! ### Growth -/

namespace NameRegistry

/-- Members `new` have the labels of `old` and those of members whose names have been claimed,
which has made `r` into `r'`. -/
def Grows (r : NameRegistry) (old new : List Member) (r' : NameRegistry) : Prop :=
  ∃ made, (new.map Member.label).Perm (old.map Member.label ++ made.map Member.label) ∧
    r.Claims made r'

variable {r r' r'' : NameRegistry} {old mid new more made : List Member}

/-- Members that keep their labels. -/
theorem Grows.of_label_eq (r : NameRegistry) (h : new.map Member.label = old.map Member.label) :
    r.Grows old new r :=
  ⟨[], by rw [h, List.map_nil, List.append_nil], .refl r⟩

theorem Grows.of_claims (old : List Member) (h : r.Claims made r') :
    r.Grows old (old ++ made) r' :=
  ⟨made, by rw [List.map_append], h⟩

/-- A member that keeps its label, and what has been added to it. -/
theorem Grows.of_cons {m kept : Member} (hlabel : kept.label = m.label)
    (h : r.Claims made r') : r.Grows [m] (kept :: made) r' :=
  ⟨made, by rw [List.map_cons, hlabel, List.map_singleton, List.singleton_append], h⟩

/-- **Growth of the parts** is growth of the whole. -/
theorem Grows.append (h : r.Grows old new r') {old' new' : List Member}
    (h' : r'.Grows old' new' r'') : r.Grows (old ++ old') (new ++ new') r'' := by
  obtain ⟨made, hperm, hclaims⟩ := h
  obtain ⟨made', hperm', hclaims'⟩ := h'
  refine ⟨made ++ made', ?_, hclaims.append hclaims'⟩
  simp only [List.map_append]
  refine (hperm.append hperm').trans ?_
  rw [List.append_assoc, List.append_assoc]
  refine .append_left _ ?_
  rw [← List.append_assoc, ← List.append_assoc]
  exact List.perm_append_comm.append_right _

/-- **Growth after growth** is growth. -/
theorem Grows.trans (h : r.Grows old mid r') (h' : r'.Grows mid new r'') :
    r.Grows old new r'' := by
  obtain ⟨made, hperm, hclaims⟩ := h
  obtain ⟨made', hperm', hclaims'⟩ := h'
  refine ⟨made ++ made', ?_, hclaims.append hclaims'⟩
  rw [List.map_append, ← List.append_assoc]
  exact hperm'.trans (hperm.append_right _)

theorem Grows.names_perm (h : r.Grows old new r') : ∃ made,
    (new.map (·.name)).Perm (old.map (·.name) ++ made.map (·.name)) ∧ r.Claims made r' := by
  obtain ⟨made, hperm, hclaims⟩ := h
  refine ⟨made, ?_, hclaims⟩
  simpa only [List.map_append, ← Member.map_name_eq_map_label] using hperm.map Prod.fst

/-- Where the names are distinct and known to the registry, they stay distinct. -/
theorem Grows.nodup (h : r.Grows old new r') (hold : (old.map (·.name)).Nodup)
    (hknown : old.map (·.name) ⊆ r.names) : (new.map (·.name)).Nodup := by
  obtain ⟨made, hperm, hclaims⟩ := h.names_perm
  refine hperm.nodup_iff.mpr (hold.append hclaims.nodup fun name hname hmade => ?_)
  obtain ⟨m, hm, rfl⟩ := List.mem_map.mp hmade
  exact hclaims.fresh m hm (hknown hname)

/-- A member that came from elsewhere than the old ones has a name that was free. -/
theorem Grows.name_not_mem (h : r.Grows old new r') {m : Member} (hm : m ∈ new)
    (horigin : ∀ m' ∈ old, m'.origin ≠ m.origin) : m.name ∉ r.names := by
  obtain ⟨made, hperm, hclaims⟩ := h
  rcases List.mem_append.mp (hperm.subset (List.mem_map_of_mem hm)) with hmem | hmem
  · obtain ⟨m', hm', hlabel⟩ := List.mem_map.mp hmem
    exact absurd (Member.origin_eq_of_label hlabel) (horigin m' hm')
  · obtain ⟨m', hm', hlabel⟩ := List.mem_map.mp hmem
    rw [← Member.name_eq_of_label hlabel]
    exact hclaims.fresh m' hm'

/-- A declaration's registry begins with what it inherits and the names of its members. -/
theorem mem_names_ofDecl {d : TypeDecl} {inherited : List String} {name : String} :
    name ∈ (ofDecl d inherited).names ↔ name ∈ inherited ∨ name ∈ d.memberNames := by
  have hfold : ∀ known names : List String,
      name ∈ names.foldl (fun known name => known.insert name) known ↔
        name ∈ known ∨ name ∈ names := by
    intro known names
    induction names generalizing known with
    | nil => simp
    | cons n names ih =>
      rw [List.foldl_cons, ih, List.mem_insert_iff, List.mem_cons]
      tauto
  rw [ofDecl, hfold, List.mem_append]
  simp

end NameRegistry

/-! ### Accessors and signals -/

/-- A field that became a property keeps its label, and what was added has claimed its names. -/
structure Synthesized.Of (field : Member) (registry : NameRegistry) (s : Synthesized) : Prop where
  label_eq : s.field.label = field.label
  claims : registry.Claims s.added s.registry

theorem Synthesized.Of.of_label_eq {field field' : Member} {registry : NameRegistry}
    {s : Synthesized} (h : s.Of field' registry) (hlabel : field'.label = field.label) :
    s.Of field registry :=
  ⟨h.label_eq.trans hlabel, h.claims⟩

theorem PropertySpec.of_apply (p : PropertySpec) (field : Member) (registry : NameRegistry) :
    (p.apply field registry).Of field registry := by
  rw [apply]
  dsimp only
  split
  · exact ⟨rfl, (registry.claims_accept _).append (NameRegistry.claims_accept _ _)⟩
  · exact ⟨rfl, registry.claims_accept _⟩

theorem SignalRequest.of_apply (r : SignalRequest) (field : Member) (onInterface : Bool)
    (registry : NameRegistry) : (r.apply field onInterface registry).Of field registry := by
  rw [apply]
  dsimp only
  split
  · exact (PropertySpec.of_apply _ _ _).of_label_eq rfl
  · have h := PropertySpec.of_apply ⟨.readonly (some (r.converted field)), false⟩
      { field with
        signature :=
          { field.signature with
            type := some ⟨r.flavor.publishedType, [r.flavor.payload field.type]⟩ }
        body := none } (registry.accept (r.trigger field onInterface)).2
    exact ⟨h.label_eq, (registry.claims_accept _).append h.claims⟩

namespace Synthesis

variable {c : Context} {d : TypeDecl}

theorem of_property {onInterface : Bool} {m : Member} {registry : NameRegistry} {s : Synthesized}
    (h : property onInterface m registry = .ok s) : s.Of m registry := by
  rw [property] at h
  split at h
  · obtain rfl := Except.ok.inj h
    exact ⟨rfl, .refl registry⟩
  · split at h
    · exact absurd h (by simp)
    · split at h
      · obtain ⟨spec, -, h⟩ := Outcome.bind_eq_ok.mp h
        obtain rfl := Except.ok.inj h
        exact spec.of_apply _ _
      · obtain rfl := Except.ok.inj h
        exact SignalRequest.of_apply _ _ _ _
      · exact absurd h (by simp)
      · exact absurd h (by simp)

theorem grows_propertyOf (d : TypeDecl) (m : Member) (p : Progress) :
    (propertyOf d m p).1.label = m.label ∧
      p.registry.Claims (propertyOf d m p).2.1 (propertyOf d m p).2.2.registry := by
  have hlabel : (if m.isField then m.withType m.inferredType else m).label = m.label := by
    split <;> rfl
  rw [propertyOf]
  dsimp only
  split
  · have h := (of_property ‹_›).of_label_eq hlabel
    exact ⟨h.label_eq, h.claims⟩
  · exact ⟨hlabel, .refl _⟩

theorem label_directInit (d : TypeDecl) (m : Member) (p : Progress) :
    (directInit d m p).1.label = m.label ∧ (directInit d m p).2.registry = p.registry := by
  rw [directInit]
  split
  · exact ⟨rfl, rfl⟩
  · split <;> exact ⟨rfl, rfl⟩

/-- One member, and what is made from it. -/
theorem grows_member (d : TypeDecl) (m : Member) (p : Progress) :
    p.registry.Grows [m] (member d m p).1 (member d m p).2.registry := by
  rw [member]
  dsimp only
  split
  · exact .of_label_eq _ rfl
  · split
    · exact .of_label_eq _ rfl
    · obtain ⟨hlabel, hclaims⟩ :=
        grows_propertyOf d { m.publish with sugar := d.sugar.nested m.sugar } p
      obtain ⟨hlabel', hregistry⟩ := label_directInit d
        (propertyOf d { m.publish with sugar := d.sugar.nested m.sugar } p).1
        (propertyOf d { m.publish with sugar := d.sugar.nested m.sugar } p).2.2
      rw [hregistry]
      exact .of_cons (hlabel'.trans hlabel) hclaims

/-- All members in turn, by induction. -/
theorem grows_members (d : TypeDecl) (ms : List Member) (p : Progress) :
    p.registry.Grows ms (members d p ms).1.flatten (members d p ms).2.registry := by
  induction ms generalizing p with
  | nil => exact .of_label_eq _ rfl
  | cons m ms ih => exact (grows_member d m p).append (ih _)

theorem length_members (d : TypeDecl) (ms : List Member) (p : Progress) :
    (members d p ms).1.length = ms.length := by
  induction ms generalizing p with
  | nil => rfl
  | cons m ms ih => exact congrArg Nat.succ (ih _)

end Synthesis

/-! ### Forwards -/

namespace Forward

/-- The counterpart of a field is a property of its name. -/
theorem exists_field (source : Member) (c : Candidate) (r : NameRegistry) :
    ∃ (made : Synthesized) (plain : Member), made.Of plain r ∧ plain.name = c.member.name ∧
      field source c r = (made.field.publish :: made.added, made.registry) := by
  refine ⟨_, _, PropertySpec.of_apply _ _ r, ?_, rfl⟩
  rfl

theorem claims_field (source : Member) (c : Candidate) {registry r : NameRegistry}
    (h : registry.claim? c.member.name = some r) :
    registry.Claims (field source c r).1 (field source c r).2 := by
  obtain ⟨made, plain, hmade, hname, hfield⟩ := exists_field source c r
  rw [hfield]
  refine ((NameRegistry.Claims.of_claim? h).append hmade.claims).of_names_eq ?_
  have hhead : made.field.publish.name = c.member.name :=
    (Member.name_eq_of_label hmade.label_eq).trans hname
  rw [List.map_cons, hhead]
  rfl

/-- Candidates in turn, by induction. -/
theorem claims_counterparts (source : Member) (template : Option Form) (registry : NameRegistry)
    (cs : List Candidate) :
    registry.Claims (counterparts source template registry cs).1
      (counterparts source template registry cs).2 := by
  induction cs generalizing registry with
  | nil => exact .refl registry
  | cons c cs ih =>
    cases hclaim : registry.claim? c.member.name with
    | none =>
      simp only [counterparts, hclaim]
      exact ih registry
    | some r =>
      simp only [counterparts, hclaim]
      split
      · exact (claims_field source c hclaim).append (ih _)
      · have hmethod : registry.Claims [method source template c] r :=
          (NameRegistry.Claims.of_claim? hclaim).of_names_eq rfl
        exact hmethod.append (ih _)

theorem claims_synthesize {host : TypeDecl} {source : Member} {request : ForwardRequest}
    {delegate : Delegate} {registry r : NameRegistry} {made : List Member}
    (h : synthesize host source request delegate registry = .ok (made, r)) :
    registry.Claims made r := by
  obtain ⟨filter, -, h⟩ := Outcome.bind_eq_ok.mp h
  obtain ⟨template, -, h⟩ := Outcome.bind_eq_ok.mp h
  obtain ⟨selected, h⟩ : ∃ selected, counterparts source template registry selected = (made, r) :=
    ⟨_, Except.ok.inj h⟩
  have hclaims := claims_counterparts source template registry selected
  rwa [h] at hclaims

end Forward

namespace Synthesis

theorem claims_forward {c : Context} {host : TypeDecl} {source : Member}
    {request : ForwardRequest} {registry r : NameRegistry} {made : List Member}
    (h : forward c host source request registry = .ok (made, r)) : registry.Claims made r := by
  obtain ⟨type, -, h⟩ := Outcome.bind_eq_ok.mp h
  split at h
  · exact absurd h (by simp [throw, throwThe, MonadExceptOf.throw])
  · exact Forward.claims_synthesize h

theorem claims_forwardOf (c : Context) (d : TypeDecl) (m : Member) (p : Progress) :
    p.registry.Claims (forwardOf c d m p).1 (forwardOf c d m p).2.registry := by
  rw [forwardOf]
  split
  · exact .refl _
  · split
    · exact .refl _
    · split
      · exact claims_forward ‹_›
      · exact .refl _

/-- All forwarding members in turn, by induction. -/
theorem grows_forwards (c : Context) (d : TypeDecl) (pairs : List (Member × List Member))
    (p : Progress) :
    p.registry.Grows (pairs.flatMap (·.2)) (forwards c d p pairs).1
      (forwards c d p pairs).2.registry := by
  induction pairs generalizing p with
  | nil => exact .of_label_eq _ rfl
  | cons pair pairs ih =>
    exact (NameRegistry.Grows.of_claims pair.2 (claims_forwardOf c d pair.1 p)).append (ih _)

end Synthesis

/-! ### The constructor -/

namespace Member

/-- Members as they were, or with a constructor behind them where none had its name. -/
def Completes (ms ms' : List Member) : Prop :=
  ms'.map label = ms.map label ∨
    constructorName ∉ ms.map (·.name) ∧ ∃ m : Member, m.isConstructor ∧ ms' = ms ++ [m]

theorem name_eq_of_isConstructor {m : Member} (h : m.isConstructor = true) :
    m.name = constructorName := by
  simpa using (Bool.and_eq_true_iff.mp h).2

variable {ms ms' : List Member}

theorem Completes.nodup (h : Completes ms ms') (hms : (ms.map (·.name)).Nodup) :
    (ms'.map (·.name)).Nodup := by
  obtain heq | ⟨hnone, m, hm, rfl⟩ := h
  · rwa [map_name_eq_of_label heq]
  · rw [List.map_append, List.map_singleton, name_eq_of_isConstructor hm]
    exact hms.append (List.nodup_singleton _) (List.disjoint_singleton.mpr hnone)

theorem Completes.exists_label_eq (h : Completes ms ms') {m : Member} (hm : m ∈ ms')
    (hconstructor : m.isConstructor = false) : ∃ m' ∈ ms, m'.label = m.label := by
  obtain heq | ⟨-, m', hm', rfl⟩ := h
  · exact Member.exists_label_eq (heq ▸ List.Subset.refl _) hm
  · rcases List.mem_append.mp hm with hm | hm
    · exact ⟨m, hm, rfl⟩
    · rw [List.mem_singleton.mp hm, hm'] at hconstructor
      exact absurd hconstructor (by simp)

end Member

namespace TypeDecl

/-- Changing the first member of a name leaves the others as they are. -/
theorem exists_modifyMember (d : TypeDecl) (name : String) (f : Member → Member) :
    ∃ ms, d.modifyMember name f = { d with members := ms } ∧
      List.Forall₂ (fun m m' => m' = m ∨ m.name = name ∧ m' = f m) d.members ms := by
  refine ⟨_, rfl, ?_⟩
  induction d.members with
  | nil => exact .nil
  | cons m ms ih =>
    rw [modifyMember.go]
    split
    · rename_i hname
      exact .cons (.inr ⟨by simpa using hname, rfl⟩) (List.forall₂_same.mpr fun m _ => .inl rfl)
    · exact .cons (.inl rfl) ih

/-- **Finishing a constructor** changes at most the member of its name, or adds one where no member
has it. -/
theorem exists_members_finishConstructor (d : TypeDecl) (direct : List DirectInit)
    (defaults : List DefaultInit) (inherited : Option Member) : ∃ kept extra,
    (d.finishConstructor direct defaults inherited).1 = { d with members := kept ++ extra } ∧
      List.Forall₂ (fun m m' => m' = m ∨
        m.name = constructorName ∧ m' = m.withInits direct defaults) d.members kept ∧
      (extra = [] ∨ constructorName ∉ d.memberNames ∧ kept = d.members ∧
        extra = [((Member.derivedConstructor d.span inherited).withInits direct
          defaults).publish]) := by
  have hsame : List.Forall₂ (fun m m' => m' = m ∨
      m.name = constructorName ∧ m' = m.withInits direct defaults) d.members d.members :=
    List.forall₂_same.mpr fun m _ => .inl rfl
  rw [finishConstructor]
  split
  · exact ⟨d.members, [], by rw [List.append_nil], hsame, .inl rfl⟩
  · split
    · obtain ⟨ms, hd, hms⟩ := d.exists_modifyMember constructorName
        fun m => m.withInits direct defaults
      exact ⟨ms, [], by rw [List.append_nil]; exact hd, hms, .inl rfl⟩
    · rename_i hnone
      refine ⟨d.members, _, rfl, hsame, .inr ⟨fun hmem => ?_, rfl, rfl⟩⟩
      obtain ⟨m, hm, hname⟩ := List.mem_map.mp hmem
      exact absurd hname (by simpa using List.find?_eq_none.mp hnone m hm)

theorem exists_finishConstructor (d : TypeDecl) (direct : List DirectInit)
    (defaults : List DefaultInit) (inherited : Option Member) :
    ∃ ms, (d.finishConstructor direct defaults inherited).1 = { d with members := ms } ∧
      Member.Completes d.members ms := by
  obtain ⟨kept, extra, hd, hkept, hextra⟩ :=
    d.exists_members_finishConstructor direct defaults inherited
  refine ⟨kept ++ extra, hd, ?_⟩
  obtain rfl | ⟨hnone, rfl, rfl⟩ := hextra
  · have hlabels : List.Forall₂ (fun m m' => m.label = Member.label m') d.members kept :=
      hkept.imp fun m m' h => by obtain rfl | ⟨-, rfl⟩ := h <;> rfl
    refine .inl ?_
    rw [List.append_nil, eq_comm, ← List.forall₂_eq_eq_eq, List.forall₂_map_left_iff,
      List.forall₂_map_right_iff]
    exact hlabels
  · exact .inr ⟨hnone, _, rfl, rfl⟩

end TypeDecl

/-! ### The plan of a declaration -/

namespace Synthesis

theorem exists_claims_woven (c : Context) (plan : TypeDecl) (ancestry : Ancestry) (p : Progress) :
    ∃ r, p.registry.Claims (woven c plan ancestry p).members r := by
  rw [woven]
  split
  · exact ⟨_, .refl _⟩
  · exact ⟨_, Weave.claims_ofTarget ..⟩

/-- What is planned for a declaration before its donors are woven in, and how far the work on it
has come by then. -/
def planned (c : Context) (d : TypeDecl) (found : Diagnostics) : List Member × Progress :=
  let p : Progress := { registry := .ofDecl d (Ancestry.of c.scope d).names, found }
  let (groups, p) := members d p d.members
  forwards c d p (d.members.zip groups)

/-- What the donors of a declaration contribute to it. -/
def contributed (c : Context) (d : TypeDecl) (found : Diagnostics) : Weave :=
  woven c { d with members := (planned c d found).1 } (Ancestry.of c.scope d)
    (planned c d found).2

/-- **A plan** is what is planned and what donors contribute, and the constructor of a class is
finished. -/
theorem expanded_eq (c : Context) (d : TypeDecl) (found : Diagnostics) :
    (expanded c d found).1 =
      let plan : TypeDecl :=
        { d with members := (planned c d found).1 ++ (contributed c d found).members }
      if d.isInterface then plan
      else (plan.finishConstructor (planned c d found).2.direct
        (contributed c d found).defaultInits (Ancestry.of c.scope d).constructor?).1 := by
  unfold expanded
  dsimp only
  split <;> rfl

/-- The planned members have grown from those declared. -/
theorem grows_planned (c : Context) (d : TypeDecl) (found : Diagnostics) :
    (NameRegistry.ofDecl d (Ancestry.of c.scope d).names).Grows d.members
      (planned c d found).1 (planned c d found).2.registry := by
  have hmade := grows_members d d.members
    { registry := .ofDecl d (Ancestry.of c.scope d).names, found }
  have hforwarded := grows_forwards c d (d.members.zip (members d
    { registry := .ofDecl d (Ancestry.of c.scope d).names, found } d.members).1) (members d
    { registry := .ofDecl d (Ancestry.of c.scope d).names, found } d.members).2
  rw [List.flatMap_def, List.map_snd_zip (length_members d d.members _).le] at hforwarded
  exact hmade.trans hforwarded

theorem exists_grows_expanded (c : Context) (d : TypeDecl) (found : Diagnostics) :
    ∃ grown ms r, (expanded c d found).1 = { d with members := ms } ∧
      (NameRegistry.ofDecl d (Ancestry.of c.scope d).names).Grows d.members grown r ∧
      Member.Completes grown ms := by
  obtain ⟨r, hwoven⟩ := exists_claims_woven c { d with members := (planned c d found).1 }
    (Ancestry.of c.scope d) (planned c d found).2
  have hgrows := (grows_planned c d found).trans (.of_claims (planned c d found).1 hwoven)
  rw [expanded_eq]
  dsimp only
  split
  · exact ⟨_, _, r, rfl, hgrows, .inl rfl⟩
  · obtain ⟨ms, hplan, hcompletes⟩ := TypeDecl.exists_finishConstructor
      { d with members := (planned c d found).1 ++ (contributed c d found).members }
      (planned c d found).2.direct (contributed c d found).defaultInits
      (Ancestry.of c.scope d).constructor?
    exact ⟨_, ms, r, hplan, hgrows, hcompletes⟩

/-- **A plan** has what its declaration has, and its members have grown from those of the
declaration by claims against the names there and those inherited, up to a constructor. -/
theorem exists_grows_ofDecl (c : Context) (d : TypeDecl) :
    ∃ grown ms r, (ofDecl c d).1 = { d with members := ms } ∧
      (NameRegistry.ofDecl d (Ancestry.of c.scope d).names).Grows d.members grown r ∧
      Member.Completes grown ms := by
  unfold ofDecl
  dsimp only
  split
  · exact exists_grows_expanded c d _
  · exact ⟨d.members, d.members, _, rfl, .of_label_eq _ rfl, .inl rfl⟩

/-- Synthesis changes nothing but members. -/
theorem header_ofDecl (c : Context) (d : TypeDecl) : (ofDecl c d).1.header = d.header := by
  obtain ⟨-, ms, -, hplan, -⟩ := exists_grows_ofDecl c d
  rw [hplan]
  rfl

@[simp] theorem name_ofDecl (c : Context) (d : TypeDecl) : (ofDecl c d).1.name = d.name :=
  TypeDecl.name_eq_of_header (header_ofDecl c d)

variable {c : Context} {d : TypeDecl}

/-- **Distinct names.** If the members of a declaration have distinct names, so do those of its
plan. -/
theorem nodup_memberNames_ofDecl (h : d.memberNames.Nodup) :
    (ofDecl c d).1.memberNames.Nodup := by
  obtain ⟨grown, ms, r, hplan, hgrows, hcompletes⟩ := exists_grows_ofDecl c d
  rw [hplan]
  exact hcompletes.nodup (hgrows.nodup h fun name hname =>
    NameRegistry.mem_names_ofDecl.mpr (.inr hname))

/-- **No inherited name.** What synthesis adds to a declaration, its constructor apart, has no
name that the declaration inherits. -/
theorem name_not_mem_ancestry {m : Member} (hm : m ∈ (ofDecl c d).1.members)
    (hconstructor : m.isConstructor = false) (horigin : ∀ m' ∈ d.members, m'.origin ≠ m.origin) :
    m.name ∉ (Ancestry.of c.scope d).names := by
  obtain ⟨grown, ms, r, hplan, hgrows, hcompletes⟩ := exists_grows_ofDecl c d
  rw [hplan] at hm
  obtain ⟨m', hm', hlabel⟩ := hcompletes.exists_label_eq hm hconstructor
  have hfree := hgrows.name_not_mem hm' fun m'' hm'' =>
    Member.origin_eq_of_label hlabel ▸ horigin m'' hm''
  rw [Member.name_eq_of_label hlabel] at hfree
  exact fun hname => hfree (NameRegistry.mem_names_ofDecl.mpr (.inl hname))

end Synthesis

end DeclWeave
