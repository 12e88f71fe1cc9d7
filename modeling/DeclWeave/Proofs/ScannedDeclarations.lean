import DeclWeave.Decl.Printer
import DeclWeave.Proofs.ReadDeclarations
import DeclWeave.Proofs.WrittenForms

/-!
# Scanned Declarations

The atoms of a text are scanned atoms, and the names of a declaration that was read are names that
are scanned as symbols. A declaration of which this holds, all its types, bodies and directives
included, has a form that holds nothing else. Printing asks no more of a declaration than that.

Being scanned is a property of the parts, so it goes through whatever only moves parts around, puts
parts in the place of others, or adds calls under fixed names.

## Main results

* `TypeDecl.isScanned_toForm`: the form of a scanned declaration.
* `TypeDecl.isScanned_readDecl`: a declaration that was read from a scanned form.
-/

namespace DeclWeave

open Outcome (Ensures ensures_bind ensures_error ensures_ok ensures_pure)

/-! ### Names -/

/-- A text that is scanned as the symbol of this name. -/
def IsName (name : String) : Prop :=
  Atom.IsSpelled (.sym name)

/-- Whether some characters are scanned as the symbol that they spell. -/
def isNameText : List Char → Bool
  | [] => false
  | c :: word =>
    !isBlank c && isSymbolStart c && word.all isSymbolChar &&
      !((c = '-' || c = '+') && startsWithDigit word) &&
      Atom.ofWord (c :: word) = .sym (String.ofList (c :: word))

theorem isName_iff {name : String} : IsName name ↔ isNameText name.toList = true := by
  have hname : String.ofList name.toList = name := String.ofList_toList
  constructor
  · rintro ⟨c, word, hchars, hword, hsym⟩
    rw [hchars] at hname ⊢
    have hsign : (decide (c = '-' ∨ c = '+') && startsWithDigit word) = false := by
      by_cases hc : c = '-' ∨ c = '+'
      · rw [hword.startsWithDigit_eq hc, Bool.and_false]
      · rw [decide_eq_false hc, Bool.false_and]
    simp only [isNameText, hword.isBlank_eq, hword.isSymbolStart_eq, ← Bool.decide_or, hsign, hsym,
      hname, List.all_eq_true.mpr hword.isSymbolChar_eq]
    decide
  · cases hchars : name.toList with
    | nil => exact fun h => absurd h (by simp [isNameText])
    | cons c word =>
      rw [hchars] at hname
      intro h
      simp only [isNameText, Bool.and_eq_true, Bool.not_eq_true', decide_eq_true_eq, hname,
        List.all_eq_true, ← Bool.decide_or, Bool.and_eq_false_iff, decide_eq_false_iff_not] at h
      obtain ⟨⟨⟨⟨hblank, hstart⟩, hchar⟩, hsign⟩, hsym⟩ := h
      exact ⟨c, word, hchars,
        ⟨hblank, hstart, hchar, fun hc => hsign.resolve_left (not_not.mpr hc)⟩,
        hsym⟩

instance : DecidablePred IsName := fun _ => decidable_of_iff _ isName_iff.symm

/-- A text that is scanned as a word, and is no literal. -/
theorem isName_of_isWord {name : String} {c : Char} {word : List Char}
    (hname : name.toList = c :: word) (hword : Lexeme.IsWord c word)
    (hliteral : name ≠ "nil" ∧ name ≠ "true" ∧ name ≠ "false") : IsName name := by
  refine ⟨c, word, hname, hword, ?_⟩
  have hsame : String.ofList (c :: word) = name := by rw [← hname, String.ofList_toList]
  rw [Atom.ofWord, hsame]
  split
  · exact absurd rfl hliteral.1
  · exact absurd rfl hliteral.2.1
  · exact absurd rfl hliteral.2.2
  · rfl

theorem isSymbolChar_of_isSymbolStart {c : Char} (h : isSymbolStart c = true) :
    isSymbolChar c = true := by
  rw [isSymbolChar, h]
  rfl

/-- All characters of a name can stand in a symbol. -/
theorem IsName.isSymbolChar_eq {name : String} (h : IsName name) :
    ∀ c ∈ name.toList, isSymbolChar c = true := by
  obtain ⟨c, word, hname, hword, -⟩ := h
  rw [hname]
  exact List.forall_mem_cons.mpr
    ⟨isSymbolChar_of_isSymbolStart hword.isSymbolStart_eq, hword.isSymbolChar_eq⟩

/-- **A name with something before it**: what stands before begins a symbol of no literal. -/
theorem IsName.prepend {name first : String} (h : IsName name) {c : Char} {word : List Char}
    (hfirst : first.toList = c :: word) (hword : Lexeme.IsWord c word)
    (hsign : c ≠ '-' ∧ c ≠ '+') (hliteral : c ≠ 'n' ∧ c ≠ 't' ∧ c ≠ 'f') :
    IsName (first ++ name) := by
  have hchars : (first ++ name).toList = c :: (word ++ name.toList) := by
    rw [String.toList_append, hfirst, List.cons_append]
  have hne : ∀ literal : String, literal.toList.head? ≠ some c → first ++ name ≠ literal := by
    rintro literal hhead rfl
    exact hhead (by rw [hchars]; rfl)
  refine isName_of_isWord hchars ⟨hword.isBlank_eq, hword.isSymbolStart_eq, ?_, ?_⟩ ⟨?_, ?_, ?_⟩
  · exact List.forall_mem_append.mpr ⟨hword.isSymbolChar_eq, h.isSymbolChar_eq⟩
  · rintro (hc | hc)
    · exact absurd hc hsign.1
    · exact absurd hc hsign.2
  · exact hne _ fun heq => hliteral.1 (Option.some.inj heq).symm
  · exact hne _ fun heq => hliteral.2.1 (Option.some.inj heq).symm
  · exact hne _ fun heq => hliteral.2.2 (Option.some.inj heq).symm

/-- **A name with something after it**, longer than any literal. -/
theorem IsName.append {name last : String} (h : IsName name)
    (hlast : ∀ c ∈ last.toList, isSymbolChar c = true) (hlength : 5 ≤ last.toList.length)
    (hdigit : startsWithDigit last.toList = false) : IsName (name ++ last) := by
  obtain ⟨c, word, hname, hword, -⟩ := h
  have hchars : (name ++ last).toList = c :: (word ++ last.toList) := by
    rw [String.toList_append, hname, List.cons_append]
  have hne : ∀ literal : String, literal.toList.length ≤ 5 → name ++ last ≠ literal := by
    rintro literal hle rfl
    rw [hchars, List.length_cons, List.length_append] at hle
    omega
  refine isName_of_isWord hchars ⟨hword.isBlank_eq, hword.isSymbolStart_eq, ?_, fun hc => ?_⟩
    ⟨hne _ (by decide), hne _ (by decide), hne _ (by decide)⟩
  · exact List.forall_mem_append.mpr ⟨hword.isSymbolChar_eq, hlast⟩
  · cases word with
    | nil => exact hdigit
    | cons d word => exact hword.startsWithDigit_eq hc

/-! ### Forms -/

namespace Form

/-- A form whose atoms are such as a text can have. -/
def IsScanned (f : Form) : Prop :=
  f.AllAtoms Atom.IsScanned

theorem isScanned_seq {b : Bracket} {items : List Form} {s : Span} :
    (Form.seq b items s).IsScanned ↔ ∀ f ∈ items, f.IsScanned :=
  allAtomsOfAll_iff

mutual

theorem isScanned_respan (s : Span) : ∀ f : Form, (f.respan s).IsScanned ↔ f.IsScanned
  | .atom _ _ => Iff.rfl
  | .seq _ items _ => allAtomsOfAll_respanAll s items

theorem allAtomsOfAll_respanAll (s : Span) : ∀ fs : List Form,
    AllAtomsOfAll Atom.IsScanned (respanAll s fs) ↔ AllAtomsOfAll Atom.IsScanned fs
  | [] => Iff.rfl
  | f :: fs => and_congr (isScanned_respan s f) (allAtomsOfAll_respanAll s fs)

end

variable {head : String} {args : List Form} {s : Span}

theorem isScanned_keyword {name : String}
    (h : name.toList ≠ [] ∧ name.toList.all isSymbolChar = true) : (keyword name s).IsScanned :=
  ⟨h.1, List.all_eq_true.mp h.2⟩

theorem isScanned_call (hhead : IsName head) (hargs : ∀ f ∈ args, f.IsScanned) :
    (call head args s).IsScanned :=
  isScanned_seq.mpr (List.forall_mem_cons.mpr ⟨hhead, hargs⟩)

end Form

/-! ### Declarations -/

namespace TypeRef

/-- A type whose names are scanned as symbols. -/
def IsScanned (t : TypeRef) : Prop :=
  (t.toForm {}).IsScanned

theorem isScanned_mk {name : String} {args : List TypeRef} :
    IsScanned ⟨name, args⟩ ↔ IsName name ∧ ∀ t ∈ args, t.IsScanned := by
  cases args with
  | nil => exact ⟨fun h => ⟨h, by simp⟩, fun h => h.1⟩
  | cons arg args =>
    rw [IsScanned, toForm, Form.list, Form.isScanned_seq, List.forall_mem_cons,
      List.forall_mem_cons, toForms_eq_map, List.forall_mem_map, List.forall_mem_cons]
    exact Iff.rfl

theorem isScanned_named {name : String} (h : IsName name) : IsScanned (.named name) :=
  h

mutual

theorem respan_toForm (s s' : Span) : ∀ t : TypeRef, (t.toForm s').respan s = t.toForm s
  | ⟨_, []⟩ => rfl
  | ⟨name, arg :: args⟩ => by
    rw [toForm, toForm, Form.list, Form.respan, Form.respanAll, Form.respanAll,
      respan_toForm s s' arg, respanAll_toForms s s' args]
    rfl

theorem respanAll_toForms (s s' : Span) :
    ∀ ts : List TypeRef, Form.respanAll s (toForms s' ts) = toForms s ts
  | [] => rfl
  | t :: ts => by
    rw [toForms, toForms, Form.respanAll, respan_toForm s s' t, respanAll_toForms s s' ts]

end

theorem isScanned_toForm {t : TypeRef} (s : Span) : (t.toForm s).IsScanned ↔ t.IsScanned := by
  rw [IsScanned, ← respan_toForm s {} t, Form.isScanned_respan]

end TypeRef

/-- A parameter whose names are scanned as symbols. -/
structure Param.IsScanned (p : Param) : Prop where
  name : IsName p.name
  type : ∀ t ∈ p.type, t.IsScanned

theorem Param.isScanned_toForm {p : Param} (h : p.IsScanned) : p.toForm.IsScanned := by
  obtain ⟨name, type⟩ := p
  cases type with
  | none => exact h.name
  | some t => exact ⟨h.name, h.type t rfl, trivial⟩

/-- An accessor request whose forms are scanned. -/
structure AccessorRequest.IsScanned (r : AccessorRequest) : Prop where
  getter : ∀ f ∈ r.getter, f.IsScanned
  setter : ∀ f ∈ r.setter, f.IsScanned
  guard : ∀ f ∈ r.guard, f.IsScanned

namespace Member

/-- A member all of whose parts are scanned. Of its directives only the accessor request has forms
that a plan can take up. -/
structure IsScanned (m : Member) : Prop where
  name : IsName m.name
  params : ∀ p ∈ m.signature.params, p.IsScanned
  type : ∀ t ∈ m.type, t.IsScanned
  body : ∀ f ∈ m.body, f.IsScanned
  accessor : ∀ r, .accessor r ∈ m.directives → r.IsScanned

variable {m : Member}

theorem isScanned_headForms (h : m.IsScanned) : ∀ f ∈ m.headForms, f.IsScanned := by
  have hparams : (Form.vector (m.signature.params.map (·.toForm)) {}).IsScanned :=
    Form.isScanned_seq.mpr (List.forall_mem_map.mpr fun p hp =>
      Param.isScanned_toForm (h.params p hp))
  have hconstructor : IsName "constructor:" := by decide
  have hfield : IsName "field:" := by decide
  have hmethod : IsName "method:" := by decide
  rw [headForms]
  split
  · simpa using ⟨hconstructor, hparams⟩
  · split
    · simpa using ⟨hfield, h.name⟩
    · simpa using ⟨hmethod, h.name, hparams⟩

theorem isScanned_optionForms (h : m.IsScanned) : ∀ f ∈ m.optionForms, f.IsScanned := by
  have htrue : (Form.bool true {}).IsScanned := trivial
  rw [optionForms, List.forall_mem_append, List.forall_mem_append]
  refine ⟨⟨?_, ?_⟩, ?_⟩
  · cases htype : m.type with
    | none => simp
    | some t =>
      have hkey : (Form.keyword (if m.isField then "type" else "returns") {}).IsScanned := by
        split <;> exact Form.isScanned_keyword (by decide)
      simpa using ⟨hkey, h.type t htype⟩
  · cases m.visibility with
    | none => simp
    | some visibility =>
      cases visibility with
      | exported => simpa using ⟨Form.isScanned_keyword (by decide), htrue⟩
      | hidden => simpa using ⟨Form.isScanned_keyword (by decide), htrue⟩
  · split
    · simpa using ⟨Form.isScanned_keyword (by decide), htrue⟩
    · simp

theorem isScanned_bodyForms (h : m.IsScanned) : ∀ f ∈ m.bodyForms, f.IsScanned := by
  rw [bodyForms]
  split
  · simp
  · rename_i s statements t hbody
    have hblock := h.body _ hbody
    split
    · exact (List.forall_mem_cons.mp (Form.isScanned_seq.mp hblock)).2
    · exact List.forall_mem_singleton.mpr hblock
  · rename_i body _ hbody
    simpa using h.body body hbody

theorem isScanned_toForm (h : m.IsScanned) : m.toForm.IsScanned :=
  Form.isScanned_seq.mpr (List.forall_mem_append.mpr ⟨List.forall_mem_append.mpr
    ⟨isScanned_headForms h, isScanned_optionForms h⟩, isScanned_bodyForms h⟩)

end Member

namespace TypeDecl

/-- A declaration all of whose parts are scanned. -/
structure IsScanned (d : TypeDecl) : Prop where
  name : IsName d.name
  typeParams : ∀ name ∈ d.typeParams, IsName name
  superclass : ∀ r ∈ d.superclass, r.IsScanned
  interfaces : ∀ r ∈ d.interfaces, r.IsScanned
  members : ∀ m ∈ d.members, m.IsScanned

variable {d : TypeDecl}

theorem isScanned_optionForms (h : d.IsScanned) :
    ∀ f ∈ d.optionForms.flatten, f.IsScanned := by
  have hnames : (Form.vector (d.typeParams.map (.sym · {})) {}).IsScanned :=
    Form.isScanned_seq.mpr (List.forall_mem_map.mpr h.typeParams)
  have hrefs : (Form.vector (d.interfaces.map (·.toForm {})) {}).IsScanned :=
    Form.isScanned_seq.mpr (List.forall_mem_map.mpr h.interfaces)
  rw [optionForms, List.flatten_append, List.flatten_append, List.forall_mem_append,
    List.forall_mem_append]
  refine ⟨⟨?_, ?_⟩, ?_⟩
  · split
    · simp
    · simpa using ⟨Form.isScanned_keyword (by decide), hnames⟩
  · cases hsuperclass : d.superclass with
    | none => simp
    | some r => simpa using ⟨Form.isScanned_keyword (by decide), h.superclass r hsuperclass⟩
  · split
    · simp
    · simpa using ⟨Form.isScanned_keyword (by decide), hrefs⟩

/-- **The form of a scanned declaration** holds nothing but scanned atoms. -/
theorem isScanned_toForm (h : d.IsScanned) : d.toForm.IsScanned := by
  have hword : IsName d.kind.headWord := by
    cases d.kind <;> decide
  refine Form.isScanned_seq.mpr (List.forall_mem_append.mpr
    ⟨List.forall_mem_append.mpr ⟨?_, isScanned_optionForms h⟩, ?_⟩)
  · simpa using ⟨hword, h.name⟩
  · exact List.forall_mem_map.mpr fun m hm =>
      Member.isScanned_toForm (h.members m hm)

end TypeDecl

/-! ### What is read -/

namespace Form

variable {f : Form}

theorem isName_of_symbol? {name : String} (h : f.IsScanned) (hname : f.symbol? = some name) :
    IsName name := by
  rw [symbol?.eq_def] at hname
  split at hname
  · rw [← Option.some.inj hname]
    exact h
  · exact absurd hname (by simp)

theorem isScanned_asVector (what : String) (h : f.IsScanned) :
    Ensures (f.asVector what) fun items => ∀ f ∈ items, f.IsScanned := by
  rw [asVector]
  split
  · rename_i items hitems
    rw [vector?.eq_def] at hitems
    split at hitems
    · rw [← Option.some.inj hitems]
      exact ensures_ok (isScanned_seq.mp h)
    · exact absurd hitems (by simp)
  · exact ensures_reject _ _

theorem isName_asNames (what : String) (h : f.IsScanned) :
    Ensures (f.asNames what) fun names => ∀ name ∈ names, IsName name := by
  refine (isScanned_asVector what h).bind fun items hitems names hnames name hname => ?_
  obtain ⟨item, hitem, hread⟩ := Outcome.exists_of_mem_mapM hnames hname
  split at hread
  · rename_i hsymbol
    rw [← Except.ok.inj hread]
    exact isName_of_symbol? (hitems item hitem) hsymbol
  · exact absurd hread (by simp [reject])

end Form

namespace TypeRef

mutual

theorem isScanned_ofForm : ∀ {f : Form}, f.IsScanned → Ensures (ofForm f) IsScanned
  | .atom (.sym name) s, h => ensures_ok (isScanned_named h)
  | .atom .nil s, _ => ensures_error _
  | .atom (.bool _) s, _ => ensures_error _
  | .atom (.int _) s, _ => ensures_error _
  | .atom (.float _) s, _ => ensures_error _
  | .atom (.str _) s, _ => ensures_error _
  | .atom (.keyword _) s, _ => ensures_error _
  | .seq .square items s, _ => ensures_error _
  | .seq .round [] s, _ => ensures_error _
  | .seq .round (head :: args) s, h => by
    obtain ⟨hhead, hargs⟩ := List.forall_mem_cons.mp (Form.isScanned_seq.mp h)
    rw [ofForm]
    split
    · rename_i name hname
      exact (isScanned_ofForms hargs).bind fun ts hts =>
        ensures_pure (isScanned_mk.mpr ⟨Form.isName_of_symbol? hhead hname, hts⟩)
    · exact ensures_reject _ _

theorem isScanned_ofForms : ∀ {fs : List Form}, (∀ f ∈ fs, f.IsScanned) →
    Ensures (ofForms fs) fun ts => ∀ t ∈ ts, t.IsScanned
  | [], _ => ensures_ok (by simp)
  | f :: fs, h => by
    obtain ⟨hf, hfs⟩ := List.forall_mem_cons.mp h
    rw [ofForms]
    refine (isScanned_ofForm hf).bind fun t ht => ?_
    exact (isScanned_ofForms hfs).bind fun ts hts =>
      ensures_pure (List.forall_mem_cons.mpr ⟨ht, hts⟩)

end

end TypeRef

namespace Param

theorem isScanned_ofForm {f : Form} (h : f.IsScanned) : Ensures (ofForm f) IsScanned := by
  unfold ofForm
  split
  · exact ensures_ok ⟨h, by simp⟩
  · rename_i name s type t
    obtain ⟨hname, htype, -⟩ := h
    exact (TypeRef.isScanned_ofForm htype).bind fun t ht =>
      ensures_pure ⟨hname, by simpa using ht⟩
  · exact ensures_reject _ _
  · exact ensures_reject _ _

theorem isScanned_listOfForm {f : Form} (h : f.IsScanned) :
    Ensures (listOfForm f) fun ps => ∀ p ∈ ps, p.IsScanned := by
  refine (Form.isScanned_asVector _ h).bind fun items hitems ps hps p hp => ?_
  obtain ⟨item, hitem, hread⟩ := Outcome.exists_of_mem_mapM hps hp
  exact isScanned_ofForm (hitems item hitem) p hread

end Param

namespace Member

namespace Options

/-- The options taken in so far are scanned. -/
structure IsScanned (o : Options) : Prop where
  member : o.member.IsScanned
  accessor : ∀ r ∈ o.accessor, r.IsScanned

variable {o : Options}

theorem isScanned_push (h : o.IsScanned) {d : Directive}
    (hd : ∀ r, d = .accessor r → r.IsScanned) : (o.push d).IsScanned where
  member :=
    { h.member with
      accessor := fun r hr => by
        rcases List.mem_append.mp hr with hr | hr
        · exact h.member.accessor r hr
        · exact hd r (List.mem_singleton.mp hr).symm }
  accessor := h.accessor

theorem isScanned_pushIf (h : o.IsScanned) {d : Directive} (wanted : Bool)
    (hd : ∀ r, d = .accessor r → r.IsScanned) : (o.pushIf d wanted).IsScanned := by
  rw [pushIf]
  split
  · exact isScanned_push h hd
  · exact h

theorem isScanned_onAccessor (h : o.IsScanned) (s : Span)
    {f : AccessorRequest → AccessorRequest}
    (hf : ∀ r : AccessorRequest, r.IsScanned → (f r).IsScanned) :
    (o.onAccessor s f).IsScanned where
  member := h.member
  accessor := by
    have hnew : AccessorRequest.IsScanned { span := s } := ⟨by simp, by simp, by simp⟩
    rintro r hr
    obtain rfl := Option.some.inj hr
    cases haccessor : o.accessor with
    | none => exact hf _ hnew
    | some r => exact hf r (h.accessor r haccessor)

theorem isScanned_addMode (h : o.IsScanned) (mode : PropertyMode) (s : Span) (wanted : Bool) :
    (o.addMode mode s wanted).IsScanned := by
  rw [addMode]
  split
  · exact isScanned_onAccessor h s fun r hr => ⟨hr.getter, hr.setter, hr.guard⟩
  · exact h

/-- **An option** is scanned if its value is. -/
theorem isScanned_apply (h : o.IsScanned) (key : String) (s : Span) {value : Form}
    (hvalue : value.IsScanned) : Ensures (o.apply key s value) IsScanned := by
  unfold apply
  split
  case h_1 | h_2 =>
    exact (TypeRef.isScanned_ofForm hvalue).bind fun t ht => ensures_pure
      ⟨{ h.member with type := by simpa [Member.type, withType] using ht }, h.accessor⟩
  case h_3 | h_4 =>
    refine ensures_bind fun wanted => ?_
    split
    · exact ensures_pure ⟨{ h.member with }, h.accessor⟩
    · exact ensures_pure h
  case h_5 | h_6 | h_7 => exact ensures_bind fun wanted => ensures_pure (isScanned_addMode h _ _ _)
  case h_8 =>
    exact ensures_pure (isScanned_onAccessor h s fun r hr => ⟨by simpa using hvalue, hr.2, hr.3⟩)
  case h_9 =>
    exact ensures_pure (isScanned_onAccessor h s fun r hr => ⟨hr.1, by simpa using hvalue, hr.3⟩)
  case h_10 =>
    exact ensures_pure (isScanned_onAccessor h s fun r hr => ⟨hr.1, hr.2, by simpa using hvalue⟩)
  case h_11 =>
    exact ensures_bind fun wanted => ensures_pure
      (isScanned_onAccessor h s fun r hr => ⟨hr.1, hr.2, hr.3⟩)
  case h_12 | h_13 | h_18 | h_19 =>
    exact ensures_bind fun wanted => ensures_pure (isScanned_pushIf h wanted (by simp))
  case h_14 => exact ensures_bind fun filters => ensures_pure ⟨h.member, h.accessor⟩
  case h_15 =>
    split
    · exact ensures_pure ⟨h.member, h.accessor⟩
    · exact ensures_reject _ _
  case h_16 | h_17 => exact ensures_bind fun names => ensures_pure (isScanned_push h (by simp))
  case h_20 =>
    exact ensures_bind fun wanted => ensures_pure ⟨{ h.member with }, h.accessor⟩
  case h_21 => exact ensures_reject _ _

theorem isScanned_finish (h : o.IsScanned) : Ensures o.finish Member.IsScanned := by
  unfold finish
  extract_lets withAccessor
  have hlast : ∀ o' : Options, o'.IsScanned → Ensures (withAccessor o') Member.IsScanned := by
    intro o' ho'
    dsimp only [withAccessor]
    split
    · rename_i r hr
      exact ensures_pure (isScanned_push ho' fun r' heq => by
        obtain rfl := Directive.accessor.inj heq
        exact ho'.accessor r hr).member
    · exact ensures_pure ho'.member
  split
  · exact hlast _ (isScanned_push h (by simp))
  · exact ensures_error _
  · exact hlast o h

/-- Options in turn, by the recursion of reading them. -/
theorem isScanned_read (h : o.IsScanned) {forms : List Form} (hforms : ∀ f ∈ forms, f.IsScanned) :
    Ensures (o.read forms) fun result => result.1.IsScanned ∧ ∀ f ∈ result.2, f.IsScanned := by
  fun_induction read o forms with
  | case1 o key s value rest ih =>
    obtain ⟨-, hvalue, hrest⟩ := by simpa using hforms
    exact (isScanned_apply h key s hvalue).bind fun o' ho' => ih o' ho' hrest
  | case2 o key s => exact ensures_reject _ _
  | case3 o forms => exact ensures_ok ⟨h, hforms⟩

end Options

theorem isScanned_readOptions {m : Member} (h : m.IsScanned) {forms : List Form}
    (hforms : ∀ f ∈ forms, f.IsScanned) :
    Ensures (m.readOptions forms) fun result =>
      result.1.IsScanned ∧ ∀ f ∈ result.2, f.IsScanned := by
  have hstart : Options.IsScanned { member := m } := ⟨h, by simp⟩
  refine (Options.isScanned_read hstart hforms).bind fun result ⟨hresult, hrest⟩ => ?_
  exact (Options.isScanned_finish hresult).bind fun m' hm' => ensures_pure ⟨hm', hrest⟩

theorem isScanned_blockOf {forms : List Form} (h : ∀ f ∈ forms, f.IsScanned) (s : Span) :
    ∀ f ∈ blockOf forms s, f.IsScanned := by
  rw [blockOf.eq_def]
  split
  · simp
  · simpa using h
  · simpa using Form.isScanned_call (by decide) h

theorem isScanned_readName {rest : List Form} (h : ∀ f ∈ rest, f.IsScanned) (s : Span) :
    Ensures (readName rest s) fun result =>
      IsName result.1 ∧ ∀ f ∈ result.2, f.IsScanned := by
  unfold readName
  split
  · exact ensures_ok (List.forall_mem_cons.mp h)
  · exact ensures_reject _ _
  · exact ensures_reject _ _

/-- A member with nothing but a scanned name and parameters. -/
theorem isScanned_bare {name : String} {kind : MemberKind} {params : List Param} {s : Span}
    (hname : IsName name) (hparams : ∀ p ∈ params, p.IsScanned) :
    IsScanned { name, kind, signature := { params }, span := s } :=
  ⟨hname, hparams, by simp [type], by simp, by simp⟩

theorem isScanned_readField {rest : List Form} (h : ∀ f ∈ rest, f.IsScanned) (s : Span) :
    Ensures (readField rest s) IsScanned := by
  refine (isScanned_readName h s).bind fun (name, rest) ⟨hname, hrest⟩ => ?_
  refine (isScanned_readOptions (isScanned_bare hname (by simp)) hrest).bind
    fun (m, rest) ⟨hm, hrest⟩ => ?_
  dsimp only
  split
  · exact ensures_pure hm
  · exact ensures_pure { hm with body := by simpa using hrest }
  · exact ensures_reject _ _

theorem isScanned_readMethod {rest : List Form} (h : ∀ f ∈ rest, f.IsScanned) (s : Span) :
    Ensures (readMethod rest s) IsScanned := by
  refine (isScanned_readName h s).bind fun (name, rest) ⟨hname, hrest⟩ => ?_
  dsimp only at hrest ⊢
  split
  · obtain ⟨hparams, hrest⟩ := List.forall_mem_cons.mp hrest
    refine (Param.isScanned_listOfForm hparams).bind fun params hparams => ?_
    exact (isScanned_readOptions (isScanned_bare hname hparams) hrest).bind
      fun (m, body) ⟨hm, hbody⟩ => ensures_pure { hm with body := isScanned_blockOf hbody s }
  · exact ensures_reject _ _

theorem isScanned_readConstructor {rest : List Form} (h : ∀ f ∈ rest, f.IsScanned) (s : Span) :
    Ensures (readConstructor rest s) IsScanned := by
  unfold readConstructor
  split
  · obtain ⟨hparams, hrest⟩ := List.forall_mem_cons.mp h
    refine (Param.isScanned_listOfForm hparams).bind fun params hparams => ?_
    exact (isScanned_readOptions (isScanned_bare (by decide) hparams) hrest).bind
      fun (m, body) ⟨hm, hbody⟩ => ensures_pure
        { hm with body := by simpa using Form.isScanned_call (by decide) hbody }
  · exact ensures_reject _ _

/-- **A member that was read** from a scanned form is scanned. -/
theorem isScanned_ofForm {f : Form} (h : f.IsScanned) : Ensures (ofForm f) IsScanned := by
  unfold ofForm
  split
  · exact isScanned_readField (List.forall_mem_cons.mp (Form.isScanned_seq.mp h)).2 _
  · exact isScanned_readMethod (List.forall_mem_cons.mp (Form.isScanned_seq.mp h)).2 _
  · exact isScanned_readConstructor (List.forall_mem_cons.mp (Form.isScanned_seq.mp h)).2 _
  · exact ensures_reject _ _
  · exact ensures_reject _ _

end Member

namespace TypeDecl

variable {d : TypeDecl}

theorem isScanned_applyOption (h : d.IsScanned) (key : String) {value : Form}
    (hvalue : value.IsScanned) : Ensures (d.applyOption key value) IsScanned := by
  unfold applyOption
  split
  case h_1 =>
    exact (Form.isName_asNames _ hvalue).bind fun names hnames =>
      ensures_pure { h with typeParams := hnames }
  case h_2 =>
    exact (TypeRef.isScanned_ofForm hvalue).bind fun r hr =>
      ensures_pure { h with superclass := by simpa using hr }
  case h_3 =>
    refine (Form.isScanned_asVector _ hvalue).bind fun items hitems => ?_
    exact (TypeRef.isScanned_ofForms hitems).bind fun refs hrefs =>
      ensures_pure { h with interfaces := hrefs }
  case h_4 | h_5 => exact ensures_bind fun wanted => ensures_pure { h with }
  case h_6 | h_7 => exact ensures_bind fun names => ensures_pure { h with }
  case h_8 => exact ensures_reject _ _

theorem isScanned_readOptions (h : d.IsScanned) {forms : List Form}
    (hforms : ∀ f ∈ forms, f.IsScanned) :
    Ensures (d.readOptions forms) fun result =>
      result.1.IsScanned ∧ ∀ f ∈ result.2, f.IsScanned := by
  fun_induction readOptions d forms with
  | case1 d key s value rest ih =>
    obtain ⟨-, hvalue, hrest⟩ := by simpa using hforms
    exact (isScanned_applyOption h key hvalue).bind fun d' hd' => ih d' hd' hrest
  | case2 d key s => exact ensures_reject _ _
  | case3 d forms => exact ensures_ok ⟨h, hforms⟩

theorem isScanned_readMembers (owner : String) (seen : List String) {forms : List Form}
    (h : ∀ f ∈ forms, f.IsScanned) :
    Ensures (readMembers owner seen forms) fun ms => ∀ m ∈ ms, m.IsScanned := by
  induction forms generalizing seen with
  | nil => exact ensures_ok (by simp)
  | cons f forms ih =>
    obtain ⟨hf, hforms⟩ := List.forall_mem_cons.mp h
    refine (Member.isScanned_ofForm hf).bind fun m hm => ?_
    split
    · exact ensures_reject _ _
    · exact (ih _ hforms).bind fun ms hms => ensures_pure (List.forall_mem_cons.mpr ⟨hm, hms⟩)

theorem isScanned_read (kind : TypeKind) {rest : List Form} (h : ∀ f ∈ rest, f.IsScanned)
    (s : Span) : Ensures (read kind rest s) IsScanned := by
  unfold read
  split
  · rename_i name s' rest
    obtain ⟨hname, hrest⟩ := List.forall_mem_cons.mp h
    have hstart : IsScanned { name, kind, span := s } :=
      ⟨hname, by simp, by simp, by simp, by simp⟩
    refine (isScanned_readOptions hstart hrest).bind fun (d, rest) ⟨hd, hrest⟩ => ?_
    exact (isScanned_readMembers name [] hrest).bind fun ms hms =>
      ensures_pure { hd with members := hms }
  · exact ensures_reject _ _
  · exact ensures_reject _ _

/-- **A declaration that was read** from a scanned form is scanned. -/
theorem isScanned_readDecl {f : Form} (h : f.IsScanned) :
    Ensures (SourceUnit.readDecl f) IsScanned := by
  have hread : Ensures (ofForm? f) fun d? => ∀ d ∈ d?, d.IsScanned := by
    unfold ofForm?
    split
    · exact (isScanned_read _ (List.forall_mem_cons.mp (Form.isScanned_seq.mp h)).2 _).bind
        fun d hd => ensures_pure (by simpa using hd)
    · exact (isScanned_read _ (List.forall_mem_cons.mp (Form.isScanned_seq.mp h)).2 _).bind
        fun d hd => ensures_pure (by simpa using hd)
    · exact ensures_ok (by simp)
  refine hread.bind fun d? hd => ?_
  split
  · exact ensures_pure (hd _ rfl)
  · exact ensures_reject _ _

end TypeDecl

/-- **The declarations of a source** are scanned. -/
theorem SourceUnit.isScanned_of_ofSource {source : String} {v : SourceUnit}
    (h : ofSource source = .ok v) : ∀ d ∈ v.types, d.IsScanned := by
  obtain ⟨forms, hforms, h⟩ := Outcome.bind_eq_ok.mp h
  intro d hd
  obtain ⟨f, hf, hread⟩ := exists_readDecl_of_ofForms h hd
  exact TypeDecl.isScanned_readDecl (Form.isScanned_of_readAll hforms hf) d hread

end DeclWeave
