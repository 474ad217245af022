import SwiftStubs.Proofs.DocLines
import SwiftStubs.Proofs.Grouping

/-!
# Documentation and code

The documentation of services and methods goes into comments and nowhere else. A request is compared
with itself without documentation: it is rejected for the same reason, and every declaration is the
same up to lines of documentation. Two requests that differ in their documentation alone are the
same without it, so their files have the same code (`Request.documentation_leaves_code`).
-/

namespace SwiftStubs

open Swift Stub

/-! ### Requests without documentation -/

/-- A method without its documentation. -/
def Method.undocumented (m : Method) : Method :=
  { m with documentation := "" }

/-- A service without its documentation and that of its methods. -/
def Service.undocumented (s : Service) : Service :=
  { s with documentation := "", methods := s.methods.map Method.undocumented }

/-- A request without the documentation of services and methods. -/
def Request.undocumented (r : Request) : Request :=
  { r with services := r.services.map Service.undocumented }

/-! ### The check -/

theorem namespaces_undocumented (services : List Service) :
  namespaces (services.map Service.undocumented) = namespaces services
  := by
  rw [namespaces, List.map_map]
  rfl

theorem servicesOf_undocumented (ns : String) (services : List Service) :
  servicesOf ns (services.map Service.undocumented)
    = (servicesOf ns services).map Service.undocumented
  := by
  rw [servicesOf, List.filter_map]
  rfl

theorem checkLoneServices_undocumented (services : List Service) :
  checkLoneServices (services.map Service.undocumented) = checkLoneServices services
  := by
  rw [checkLoneServices, checkLoneServices, namespaces_undocumented, servicesOf_undocumented,
    List.find?_map]
  dsimp only [Function.comp_def, Service.undocumented]
  cases (servicesOf "" services).find? _ with
  | none => rfl
  | some s => rfl

theorem checkNamespace_undocumented (services : List Service) (ns : String) :
  checkNamespace (services.map Service.undocumented) ns = checkNamespace services ns
  := by
  have hrepeated : repeatedIn ns ((servicesOf ns services).map Service.undocumented)
      = repeatedIn ns (servicesOf ns services) := by
    funext name
    rw [repeatedIn, repeatedIn, List.head?_map, Option.map_map]
    rfl
  rw [checkNamespace, checkNamespace, servicesOf_undocumented, hrepeated, List.map_map]
  rfl

theorem checkMethodNames_undocumented (s : Service) :
  checkMethodNames s.undocumented = checkMethodNames s
  := by
  have hspelling : checkSpelling s.undocumented = checkSpelling s := by
    funext spelling
    rw [checkSpelling, checkSpelling, Service.undocumented, List.map_map]
    rfl
  rw [checkMethodNames, checkMethodNames, hspelling]

/-- The check of a request does not look at documentation. -/
theorem Request.check_undocumented (r : Request) :
  r.undocumented.check = r.check
  := by
  have hwire : checkWireNames (r.services.map Service.undocumented)
      = checkWireNames r.services := by
    rw [checkWireNames, List.map_map]
    rfl
  have hnames : checkServiceNames (r.services.map Service.undocumented)
      = checkServiceNames r.services := by
    have hspaces : checkNamespace (r.services.map Service.undocumented)
        = checkNamespace r.services := by
      funext ns
      apply checkNamespace_undocumented
    rw [checkServiceNames, checkServiceNames, checkLoneServices_undocumented,
      namespaces_undocumented, hspaces]
  have hmethods : (r.services.map Service.undocumented).forM checkMethodNames
      = r.services.forM checkMethodNames := by
    simp only [List.forM_eq_forM, List.forM_map, checkMethodNames_undocumented]
  rw [check, undocumented, hwire, hnames, hmethods]
  rfl

/-! ### The sections -/

theorem serviceEnum_undocumented (style : Style) (sides : Sides) (s : Service) :
  serviceEnum style sides s.undocumented = serviceEnum style sides s
  := by
  have hmethods : methodsEnum style s.undocumented = methodsEnum style s := by
    rw [methodsEnum, methodsEnum, descriptorList, descriptorList, Service.undocumented,
      List.map_map, List.map_map]
    rfl
  rw [serviceEnum, serviceEnum, hmethods]
  rfl

theorem ordered_undocumented (services : List Service) :
  ordered (services.map Service.undocumented) = (ordered services).map Service.undocumented
  := by
  symm
  apply List.map_mergeSort
  intro s _ t _
  rfl

/-- The alias section has no documentation. -/
theorem aliasSection_undocumented (style : Style) (sides : Sides) (services : List Service) :
  aliasSection style sides (services.map Service.undocumented) = aliasSection style sides services
  := by
  have henums : spaceDeclarations style sides (services.map Service.undocumented)
      = spaceDeclarations style sides services := by
    funext ns
    rw [spaceDeclarations, spaceDeclarations, enumsOf, enumsOf, ordered_undocumented,
      servicesOf_undocumented, List.map_map]
    have henum : serviceEnum style sides ∘ Service.undocumented = serviceEnum style sides := by
      funext s
      apply serviceEnum_undocumented
    rw [henum]
  rw [aliasSection_eq, aliasSection_eq, henums, spaces, spaces, ordered_undocumented,
    namespaces_undocumented]

theorem narrowMethods_undocumented (s : Service) :
  narrowMethods s.undocumented = (narrowMethods s).map Method.undocumented
  := by
  rw [narrowMethods, Service.undocumented, List.filter_map]
  rfl

/-- Documentation in front of a declaration is all that presenting it with documentation adds. -/
theorem adorned_present {d d' : Declaration} (h : d.Adorned d') (style : Style) (text : String) :
  (style.present "" d).Adorned (style.present text d')
  := (h.available style.availability).documented text

/-- Members for methods to which documentation is added, method by method. -/
theorem forall₂_adorned {f g : Method → Declaration} (ms : List Method)
    (h : ∀ m, ∃ text, g m = (f m.undocumented).documented text) :
  List.Forall₂ Declaration.Adorned ((ms.map Method.undocumented).map f) (ms.map g)
  := by
  rw [List.map_map, List.forall₂_map_left_iff, List.forall₂_map_right_iff, List.forall₂_same]
  intro m _
  obtain ⟨text, heq⟩ := h m
  rw [heq]
  exact (Declaration.Adorned.refl _).documented text

theorem adorned_serverDeclarations (style : Style) (r : Request) (s : Service) :
  List.Forall₂ Declaration.Adorned (serverDeclarations style r.undocumented s.undocumented)
    (serverDeclarations style r s)
  := by
  have hregistration : registration style r.undocumented s.undocumented
      = registration style r s := by
    rw [registration, registration, registerMethods, registerMethods, Service.undocumented,
      List.map_map]
    rfl
  have hadapter : adapter style s.undocumented = adapter style s := by
    rw [adapter, adapter, narrowMethods_undocumented, List.map_map]
    rfl
  refine .cons ?_ (.cons ?_ (.cons ?_ (.cons ?_ .nil)))
  · apply adorned_present
    apply adorned_protocol
    exact forall₂_adorned s.methods (fun m => ⟨m.documentation, rfl⟩)
  · rw [hregistration]
    apply Declaration.Adorned.refl
  · apply adorned_present
    rw [narrowMethods_undocumented]
    apply adorned_protocol
    exact forall₂_adorned (narrowMethods s) (fun m => ⟨m.documentation, rfl⟩)
  · rw [hadapter]
    apply Declaration.Adorned.refl

theorem adorned_clientDeclarations (style : Style) (r : Request) (s : Service) :
  List.Forall₂ Declaration.Adorned (clientDeclarations style r.undocumented s.undocumented)
    (clientDeclarations style r s)
  := by
  have hoverloads : overloads style r.undocumented s.undocumented = overloads style r s := by
    rw [overloads, overloads, Service.undocumented, List.map_map]
    rfl
  refine .cons ?_ (.cons ?_ (.cons ?_ .nil))
  · apply adorned_present
    apply adorned_protocol
    exact forall₂_adorned s.methods (fun m => ⟨m.documentation, rfl⟩)
  · rw [hoverloads]
    apply Declaration.Adorned.refl
  · apply adorned_present
    apply adorned_struct
    refine .cons (.refl _) (.cons (.refl _) ?_)
    exact forall₂_adorned s.methods (fun m => ⟨m.documentation, rfl⟩)

/-- The blocks of a section to whose declarations documentation is added, service by service. -/
theorem forall₂_blocks {f g : Service → List Declaration}
    (h : ∀ s, List.Forall₂ Declaration.Adorned (f s.undocumented) (g s)) (services : List Service) :
  List.Forall₂ (fun b b' => Documented b.layout.lines b'.layout.lines)
    ((services.map Service.undocumented).flatMap (fun s => (f s).map Declaration.block))
    (services.flatMap (fun s => (g s).map Declaration.block))
  := by
  induction services with
  | nil => exact .nil
  | cons s services ih =>
      rw [List.map_cons, List.flatMap_cons, List.flatMap_cons]
      apply List.rel_append _ ih
      rw [List.forall₂_map_left_iff, List.forall₂_map_right_iff]
      exact h s

/-- The sections of a request are those of the request without documentation, with documentation
added. -/
theorem documented_sections (style : Style) (sides : Sides) (r : Request) :
  Documented (spacedLines (sections style sides r.undocumented))
    (spacedLines (sections style sides r))
  := by
  apply documented_spacedLines
  rw [sections, sections]
  apply List.rel_append
  · apply List.rel_append
    · rw [Request.undocumented, aliasSection_undocumented, List.forall₂_same]
      intro b _
      apply Documented.refl
    · split
      · apply forall₂_blocks (adorned_serverDeclarations style r)
      · exact .nil
  · split
    · apply forall₂_blocks (adorned_clientDeclarations style r)
    · exact .nil

/-! ### The generated file -/

/-- Two outcomes that are failures for one reason, or results that are related. -/
inductive Alike {ε α β : Type} (R : α → β → Prop) : Except ε α → Except ε β → Prop
  | error (e : ε) : Alike R (.error e) (.error e)
  | ok {a : α} {b : β} (h : R a b) : Alike R (.ok a) (.ok b)

namespace Alike

variable {ε ε' α α' β β' γ : Type} {R : α → β → Prop}

theorem bind {S : α' → β' → Prop} {x : Except ε α} {y : Except ε β} {f : α → Except ε α'}
    {g : β → Except ε β'} (h : Alike R x y) (hfg : ∀ a b, R a b → Alike S (f a) (g b)) :
  Alike S (x >>= f) (y >>= g)
  := by
  cases h with
  | error e => exact .error e
  | ok h => exact hfg _ _ h

theorem mapError {x : Except ε α} {y : Except ε β} (f : ε → ε') (h : Alike R x y) :
  Alike R (SwiftStubs.mapError f x) (SwiftStubs.mapError f y)
  := by
  cases h with
  | error e => exact .error (f e)
  | ok h => exact .ok h

/-- Outcomes that are both like a third are like each other. -/
theorem through {S : α → γ → Prop} {T : β → γ → Prop} {x : Except ε α} {y : Except ε β}
    {z : Except ε γ} (hy : Alike R x y) (hz : Alike S x z)
    (hT : ∀ a b c, R a b → S a c → T b c) :
  Alike T y z
  := by
  cases hy with
  | error e =>
      cases hz with
      | error => exact .error e
  | ok hy =>
      cases hz with
      | ok hz => exact .ok (hT _ _ _ hy hz)

end Alike

/-- Documentation decides neither whether lines can be written nor what their code is. -/
theorem Swift.Documented.alike_textOf (m : Memory) (width : Int) {ls ls' : List DeepLine}
    (h : Documented ls ls') :
  Alike SameCode (textOf m width ls) (textOf m width ls')
  := by
  have hexcess : firstExcess? m width ls' = firstExcess? m width ls :=
    h.findSome?_eq (fun depth => m.room.excess? (width * depth))
  rw [textOf, textOf, hexcess]
  cases firstExcess? m width ls with
  | some cause => exact .error _
  | none => exact .ok (h.sameCode width)

theorem Request.alike_file (c : Configuration) (r : Request) :
  Alike (fun f f' => f.name = f'.name ∧ Documented f.contents.lines f'.contents.lines)
    (r.undocumented.file c) (r.file c)
  := by
  rw [file, file, check_undocumented]
  cases r.check with
  | error e => exact .error e
  | ok _ =>
      show Alike _ (importsOf r.dependencies >>= _) (importsOf r.dependencies >>= _)
      cases importsOf r.dependencies with
      | error e => exact .error e
      | ok is =>
          refine .ok ⟨rfl, ?_⟩
          exact (Documented.refl _).append
            ((Documented.refl _).append (documented_sections c.style c.sides r))

/-- A request is generated as without documentation, with documentation added. -/
theorem Request.alike_generate (m : Memory) (c : Configuration) (r : Request) :
  Alike (fun s s' => s.name = s'.name ∧ SameCode s.contents s'.contents)
    (r.undocumented.generate m c) (r.generate m c)
  := by
  rw [generate_eq, generate_eq]
  apply ((alike_file c (r.withExtraImports c)).mapError RequestError.failure).bind
  rintro f f' ⟨hname, hlines⟩
  apply ((hlines.alike_textOf m c.indentation).mapError _).bind
  intro t t' hcode
  exact .ok ⟨hname, hcode⟩

/-- Documentation leaves code as it is. Of two requests that are the same without the
documentation of services and methods, either both fail for one reason, or both have files of one
name that are the same, line by line, without the lines of documentation. -/
theorem Request.documentation_leaves_code (m : Memory) (c : Configuration) {r r' : Request}
    (h : r.undocumented = r'.undocumented) :
  Alike (fun s s' => s.name = s'.name ∧ SameCode s.contents s'.contents)
    (r.generate m c) (r'.generate m c)
  := by
  have hr := alike_generate m c r
  rw [h] at hr
  apply hr.through (alike_generate m c r')
  rintro s t t' ⟨hname, hlines, hpieces⟩ ⟨hname', hlines', hpieces'⟩
  exact ⟨hname.symm.trans hname', hlines.symm.trans hlines', hpieces.symm.trans hpieces'⟩

/-- A request with documentation that tries to end its comment by several kinds of line breaks. -/
def Request.explained : Request :=
  { greetings with
    services := greetings.services.map
      (fun s => { s with documentation := "Greets.\r\x7d\n\nimport Evil\u2028func f()" }) }

theorem Request.explained_leaves_code :
  explained.undocumented = greetings.undocumented
    ∧ ∃ s s', explained.generate .ample .standard = .ok s
      ∧ greetings.generate .ample .standard = .ok s'
      ∧ s.name = s'.name ∧ SameCode s.contents s'.contents
  := by
  have hdocumentation : explained.undocumented = greetings.undocumented := rfl
  refine ⟨hdocumentation, ?_⟩
  obtain ⟨s', hs'⟩ := (exists_generate_eq_ok_iff .ample .standard greetings).mpr
    ⟨(check_eq_ok_iff greetings).mp check_greetings, writable_of_moderate (by decide) greetings⟩
  have halike := documentation_leaves_code .ample .standard hdocumentation
  rw [hs'] at halike ⊢
  generalize explained.generate .ample .standard = x at halike
  cases halike with
  | ok h => exact ⟨_, s', rfl, rfl, h⟩

end SwiftStubs
