import SwiftStubs.Proofs.Casing
import SwiftStubs.Proofs.Headings
import SwiftStubs.Proofs.Lookup
import SwiftStubs.Proofs.WireNames

/-!
# Methods that become initializers

For a method there are functions at up to six places of a stub file. They are called by the lower
camel case of the method's name, and a function called `init` is written as an initializer. So
methods become functions, as they should, unless their name is `Init` or `INIT` in upper camel case.
These become initializers, beside the one that the struct of every service has
(`Schema.methods_become_functions_but_init`).
-/

namespace SwiftStubs

open Swift Stub

/-! ### Labels -/

/-- The labels of parameters and arguments that stand at the beginning of a line. -/
def leadingLabels : List String :=
  ["service", "method", "request", "serializer", "deserializer", "_", "with", "client", "handler",
    "descriptor", "stream", "single", "forMethod"]

theorem inert_leadingLabels :
  ∀ label ∈ leadingLabels, Inert label
  := by
  have hapart : ∀ label ∈ leadingLabels, ∀ o ∈ openings "init",
      ¬ o.toList <+: label.toList ∧ ¬ label.toList <+: o.toList := by
    decide +kernel
  intro label hlabel
  exact inert_of_apart (hapart label hlabel)

theorem silent_argument {label : String} (h : label ∈ leadingLabels) {value : Expression}
    (hvalue : value.layout.Tame) :
  (Argument.mk (some label) value).Silent
  := silent_labelled (inert_leadingLabels label h) hvalue

/-! ### Initializers in the alias section -/

/-- The list of descriptors of a service is written without an initializer. -/
def Service.ListsInertly (s : Service) : Prop :=
  ∀ m ∈ s.methods, Inert (m.name.upper ++ ".descriptor")

/-- Behind letters and digits there is no initializer in a line that goes on with a dot. -/
theorem inert_of_isAlphanum {x : String} (h : ∀ c ∈ x.toList, c.isAlphanum) :
  Inert (x ++ ".descriptor")
  := by
  have hopenings : ∀ o ∈ openings "init", '.' ∉ o.toList
      ∧ o.toList.any (fun c => !c.isAlphanum && c != '.') := by
    decide +kernel
  intro u
  rw [Bool.eq_false_iff, Ne, opens_iff]
  rintro ⟨o, ho, hprefix⟩
  obtain ⟨hdot, hother⟩ := hopenings o ho
  obtain ⟨c, hc, hother⟩ := List.any_eq_true.mp hother
  have hstart : x.toList ++ ['.'] <+: (x ++ ".descriptor" ++ u).toList := by
    refine ⟨"descriptor".toList ++ u.toList, ?_⟩
    simp
  obtain hshort | hlong := List.prefix_or_prefix_of_prefix hprefix hstart
  · obtain hx | hx := List.mem_append.mp (hshort.subset hc)
    · rw [h c hx] at hother
      cases hother
    · rw [List.mem_singleton.mp hx] at hother
      cases hother
  · exact hdot (hlong.subset (by simp))

section

variable (style : Style) (sides : Sides) (s : Service)

theorem initializers_methodEnum (m : Method) :
  (methodEnum style s m).initializers = []
  := by
  have hcall : (descriptorCall s m).layout.Tame := by
    apply tame_call
    rw [List.forall_mem_cons, List.forall_mem_singleton]
    exact ⟨silent_argument (by decide) (Layout.tame_text _),
      silent_argument (by decide) (Layout.tame_text _)⟩
  have hdescriptor : (Declaration.constant (some style.access) "descriptor" true none
      (some (descriptorCall s m))).initializers = [] := (silent_constant _ _ _ _ hcall).initializers
  rw [methodEnum, initializers_enumeration, List.flatMap_cons, List.flatMap_cons,
    List.flatMap_singleton, initializers_typeAlias, initializers_typeAlias, hdescriptor]
  rfl

theorem initializers_methodsEnum (h : s.ListsInertly) :
  (methodsEnum style s).initializers = []
  := by
  have hlist : (descriptorList style s).initializers = [] := by
    apply Silent.initializers
    apply silent_constant
    apply tame_arrayLiteral
    rw [List.forall_mem_map]
    intro m hm
    exact Layout.silent_lines (h m hm) (Layout.tame_text _)
  have hmethods : (s.methods.map (methodEnum style s)).flatMap Declaration.initializers = [] := by
    rw [List.flatMap_map, List.flatMap_eq_nil_iff]
    intro m _
    apply initializers_methodEnum
  rw [methodsEnum, initializers_enumeration, List.flatMap_append, List.flatMap_singleton, hmethods,
    hlist]
  rfl

theorem initializers_serviceEnum (h : s.ListsInertly) :
  (serviceEnum style sides s).initializers = []
  := by
  have hroles : ((roles sides).map (roleAlias style s)).flatMap Declaration.initializers = [] := by
    rw [List.flatMap_map, List.flatMap_eq_nil_iff]
    intro role _
    rw [roleAlias, initializers_available, initializers_typeAlias]
  rw [serviceEnum, initializers_enumeration, List.flatMap_cons, initializers_methodsEnum style s h,
    hroles]
  rfl

end

theorem initializers_spaceDeclarations (style : Style) (sides : Sides) {services : List Service}
    (h : ∀ s ∈ services, s.ListsInertly) (ns : String) :
  (spaceDeclarations style sides services ns).flatMap Declaration.initializers = []
  := by
  have henums : (enumsOf style sides services ns).flatMap Declaration.initializers = [] := by
    rw [enumsOf, List.flatMap_map, List.flatMap_eq_nil_iff]
    intro s hs
    obtain ⟨hmem, -⟩ := (mem_servicesOf_iff ns _ s).mp hs
    exact initializers_serviceEnum style sides s (h s ((mem_ordered services s).mp hmem))
  rw [spaceDeclarations]
  split
  · exact henums
  · rw [List.flatMap_singleton, initializers_enumeration, henums]
    rfl

/-! ### Initializers for methods -/

/-- The headings of the functions for the methods that are called `init`. -/
def initHeadings (function : Method → Declaration) (ms : List Method) : List DeepLine :=
  (ms.filter (fun m => m.name.lower == "init")).map (fun m => (1, (function m).heading))

/-- A declaration is written without an initializer, unless it is one for a method with the name
`init`. -/
def DeclaresMethod (m : Method) (d : Declaration) : Prop :=
  d.initializers = if m.name.lower = "init" then [(0, d.heading)] else []

/-- Among members for methods, the initializers are those for the methods called `init`. -/
theorem initializers_methods {function : Method → Declaration}
    (h : ∀ m, DeclaresMethod m (function m)) (ms : List Method) :
  deeper ((ms.map function).flatMap Declaration.initializers) = initHeadings function ms
  := by
  induction ms with
  | nil => rfl
  | cons m ms ih =>
      rw [initHeadings] at ih
      rw [List.map_cons, List.flatMap_cons, deeper, List.map_append, ← deeper, ← deeper, ih, h m,
        initHeadings]
      by_cases hm : m.name.lower = "init"
      · rw [if_pos hm, List.filter_cons_of_pos (by simpa using hm)]
        rfl
      · rw [if_neg hm, List.filter_cons_of_neg (by simpa using hm)]
        rfl

section

variable {m : Method} {g : Signature} {body : Option (List Block)}

theorem inert_parameters (labels : List String) (h : g.parameters.map Parameter.label = labels)
    (hlabels : ∀ label ∈ labels, label ∈ leadingLabels) :
  ∀ p ∈ g.parameters, Inert p.label
  := by
  intro p hp
  apply inert_leadingLabels
  apply hlabels
  rw [← h]
  exact List.mem_map_of_mem hp

theorem declaresMethod_function (hname : g.name = m.name.lower)
    (hg : ∀ p ∈ g.parameters, Inert p.label)
    (hbody : ∀ bs ∈ body, ∀ b ∈ bs, Silent b.layout.lines) :
  DeclaresMethod m (.function g body)
  := by
  rw [DeclaresMethod, initializers_function hg hbody, hname]
  rfl

theorem DeclaresMethod.documented {d : Declaration} (h : DeclaresMethod m d)
    (documentation : String) :
  DeclaresMethod m (d.documented documentation)
  := by
  rw [DeclaresMethod, initializers_documented, h, Declaration.heading, Declaration.heading,
    Declaration.bare_documented]

end

section

variable (style : Style) (r : Request) (s : Service) (m : Method)

theorem declaresMethod_serverRequirement (inputStreaming outputStreaming : Bool) :
  DeclaresMethod m ((Declaration.function
    (serverSignature none s m inputStreaming outputStreaming) none).documented m.documentation)
  := by
  apply DeclaresMethod.documented
  apply declaresMethod_function rfl (inert_parameters ["request"] rfl (by decide))
  nofun

/-- A call with a name as its only argument is written in one line. -/
theorem tame_conversion (callee value : String) {label : String} (h : label ∈ leadingLabels) :
  (Expression.call (.identifier callee) [.mk (some label) (.identifier value)]).layout.Tame
  := tame_call callee (List.forall_mem_singleton.mpr (silent_argument h (Layout.tame_text value)))

theorem declaresMethod_adapterMethod :
  DeclaresMethod m (adapterMethod style s m)
  := by
  have hrequest : (adaptedRequest m).layout.Tame := by
    rw [adaptedRequest]
    split
    · exact Layout.tame_text _
    · exact tame_conversion _ _ (by decide)
  have hresponse : (adaptedResponse m).layout.Tame := by
    rw [adaptedResponse]
    split
    · exact Layout.tame_text _
    · exact tame_conversion _ _ (by decide)
  have hcall : (Expression.call (.identifier ("self." ++ m.name.lower))
      [.mk (some "request") (adaptedRequest m)]).layout.Tame := by
    apply tame_call
    exact List.forall_mem_singleton.mpr (silent_argument (by decide) hrequest)
  apply declaresMethod_function rfl (inert_parameters ["request"] rfl (by decide))
  intro bs hbs
  obtain rfl := Option.mem_some_iff.mp hbs
  rw [List.forall_mem_cons, List.forall_mem_singleton]
  exact ⟨silent_constant _ _ _ _ (Layout.tame_of_silent (silent_tryAwait hcall)),
    silent_keyword .returnValue hresponse⟩

theorem declaresMethod_clientRequirement :
  DeclaresMethod m (clientRequirement s m)
  := by
  apply DeclaresMethod.documented
  apply declaresMethod_function rfl
    (inert_parameters ["request", "serializer", "deserializer", "_"] rfl (by decide))
  nofun

theorem declaresMethod_overload :
  DeclaresMethod m (overload style r s m)
  := by
  have hcall : (overloadCall r s m).layout.Tame := by
    apply tame_call
    rw [List.forall_mem_cons, List.forall_mem_cons, List.forall_mem_cons, List.forall_mem_singleton]
    exact ⟨silent_argument (by decide) (Layout.tame_text _),
      silent_argument (by decide) (Layout.tame_text _),
      silent_argument (by decide) (Layout.tame_text _),
      Layout.silent_lines (inert_of_head? rfl) (Layout.tame_text _)⟩
  apply declaresMethod_function rfl (inert_parameters ["request", "_"] rfl (by decide))
  intro bs hbs
  obtain rfl := Option.mem_some_iff.mp hbs
  exact List.forall_mem_singleton.mpr (silent_tryAwait hcall)

theorem declaresMethod_clientMethod :
  DeclaresMethod m (clientMethod style s m)
  := by
  have hcall : (forwardedCall s m).layout.Tame := by
    apply tame_call
    rw [List.forall_mem_cons, List.forall_mem_cons, List.forall_mem_cons, List.forall_mem_cons,
      List.forall_mem_singleton]
    exact ⟨silent_argument (by decide) (Layout.tame_text _),
      silent_argument (by decide) (Layout.tame_text _),
      silent_argument (by decide) (Layout.tame_text _),
      silent_argument (by decide) (Layout.tame_text _),
      silent_argument (by decide) (Layout.tame_text _)⟩
  apply declaresMethod_function rfl
    (inert_parameters ["request", "serializer", "deserializer", "_"] rfl (by decide))
  intro bs hbs
  obtain rfl := Option.mem_some_iff.mp hbs
  exact List.forall_mem_singleton.mpr (silent_tryAwait hcall)

end

/-! ### Initializers of a service -/

section

variable (style : Style) (r : Request) (s : Service)

/-- The initializers in the server section of a service. -/
def serverInitializers : List DeepLine :=
  initHeadings (streamingRequirement s) s.methods
    ++ initHeadings (ownRequirement s) (narrowMethods s)
    ++ initHeadings (adapterMethod style s) (narrowMethods s)

/-- The initializers in the client section of a service. There is always the one of the struct. -/
def clientInitializers : List DeepLine :=
  initHeadings (clientRequirement s) s.methods ++ initHeadings (overload style r s) s.methods
    ++ (1, (clientInitializer style).heading) :: initHeadings (clientMethod style s) s.methods

theorem silent_registerCall (m : Method) :
  Silent (registerCall r s m).layout.lines
  := by
  have hhandler : (Expression.closure ["request"]
      [(Expression.call (.identifier ("self." ++ m.name.lower))
        [.mk (some "request") (.identifier "request")]).tryAwait.block]).layout.Tame := by
    apply tame_closure
    rw [List.forall_mem_singleton]
    exact silent_tryAwait (tame_conversion _ _ (by decide))
  apply silent_call (inert_of_head? rfl)
  rw [List.forall_mem_cons, List.forall_mem_cons, List.forall_mem_cons, List.forall_mem_singleton]
  exact ⟨silent_argument (by decide) (Layout.tame_text _),
    silent_argument (by decide) (Layout.tame_text _),
    silent_argument (by decide) (Layout.tame_text _), silent_argument (by decide) hhandler⟩

theorem initializers_registration :
  (registration style r s).initializers = []
  := by
  have hname : "registerMethods" ≠ "init" := by decide
  have hregister : (registerMethods style r s).initializers = [] := by
    rw [registerMethods, initializers_available,
      initializers_function (inert_parameters ["with"] rfl (by decide)), if_neg hname]
    intro bs hbs
    obtain rfl := Option.mem_some_iff.mp hbs
    rw [List.forall_mem_map]
    intro m _
    exact silent_registerCall r s m
  rw [registration, initializers_present, initializers_extension, List.flatMap_singleton, hregister]
  rfl

theorem initializers_serverDeclarations :
  (serverDeclarations style r s).flatMap Declaration.initializers
    = serverInitializers style s
  := by
  have hstreaming : (streamingProtocol style s).initializers
      = initHeadings (streamingRequirement s) s.methods := by
    rw [streamingProtocol, initializers_present, initializers_protocol]
    apply initializers_methods
    intro m
    apply declaresMethod_serverRequirement
  have hown : (serviceProtocol style s).initializers
      = initHeadings (ownRequirement s) (narrowMethods s) := by
    rw [serviceProtocol, initializers_present, initializers_protocol]
    apply initializers_methods
    intro m
    apply declaresMethod_serverRequirement
  have hadapter : (adapter style s).initializers
      = initHeadings (adapterMethod style s) (narrowMethods s) := by
    rw [adapter, initializers_present, initializers_extension]
    exact initializers_methods (declaresMethod_adapterMethod style s) _
  rw [serverDeclarations, List.flatMap_cons, List.flatMap_cons, List.flatMap_cons,
    List.flatMap_singleton, hstreaming, initializers_registration, hown, hadapter, List.nil_append,
    serverInitializers, List.append_assoc]

theorem initializers_clientInitializer :
  (clientInitializer style).initializers = [(0, (clientInitializer style).heading)]
  := by
  have hassignment : Silent (Expression.assignment (.identifier "self.client")
      (.identifier "client")).layout.lines := by
    have hleft : Inert (Layout.text "self.client").first := inert_of_head? rfl
    rw [Expression.layout]
    exact Layout.silent_lines (Layout.inert_glue (Layout.inert_glue hleft _) _)
      (((Layout.tame_text _).glue (Layout.tame_text _)).glue (Layout.tame_text _))
  rw [clientInitializer, initializers_function (inert_parameters ["client"] rfl (by decide)),
    if_pos rfl]
  · rfl
  · intro bs hbs
    obtain rfl := Option.mem_some_iff.mp hbs
    exact List.forall_mem_singleton.mpr hassignment

theorem initializers_clientStruct :
  (clientStruct style s).initializers
    = (1, (clientInitializer style).heading) :: initHeadings (clientMethod style s) s.methods
  := by
  have hproperty : clientProperty.initializers = [] := by
    apply Silent.initializers
    exact Layout.silent_lines (inert_constantHead _ _ _ _) (Layout.tame_text _)
  have hmethods : deeper ((s.methods.map (fun m =>
      (clientMethod style s m).documented m.documentation)).flatMap
        Declaration.initializers) = initHeadings (clientMethod style s) s.methods := by
    rw [initializers_methods]
    · simp only [initHeadings, Declaration.heading, Declaration.bare_documented]
    · intro m
      exact (declaresMethod_clientMethod style s m).documented m.documentation
  rw [clientStruct, initializers_present, initializers_struct, List.flatMap_cons,
    List.flatMap_cons, hproperty, initializers_clientInitializer, ← hmethods]
  rfl

theorem initializers_clientDeclarations :
  (clientDeclarations style r s).flatMap Declaration.initializers
    = clientInitializers style r s
  := by
  have hprotocol : (clientProtocol style s).initializers
      = initHeadings (clientRequirement s) s.methods := by
    rw [clientProtocol, initializers_present, initializers_protocol]
    exact initializers_methods (declaresMethod_clientRequirement s) _
  have hoverloads : (overloads style r s).initializers
      = initHeadings (overload style r s) s.methods := by
    rw [overloads, initializers_present, initializers_extension]
    exact initializers_methods (declaresMethod_overload style r s) _
  rw [clientDeclarations, List.flatMap_cons, List.flatMap_cons, List.flatMap_singleton, hprotocol,
    hoverloads, initializers_clientStruct, clientInitializers, List.append_assoc]

end

/-- The initializers in the code of a request. -/
theorem initializers_sections (style : Style) (sides : Sides) {r : Request}
    (h : ∀ s ∈ r.services, s.ListsInertly) :
  initializers (spacedLines (sections style sides r))
    = (if sides.server then r.services.flatMap (serverInitializers style) else [])
      ++ (if sides.client then r.services.flatMap (clientInitializers style r) else [])
  := by
  have haliases : ((spaces r.services).flatMap (spaceDeclarations style sides r.services)).flatMap
      Declaration.initializers = [] := by
    rw [List.flatMap_assoc, List.flatMap_eq_nil_iff]
    intro ns _
    exact initializers_spaceDeclarations style sides h ns
  have hserver : (r.services.flatMap (serverDeclarations style r)).flatMap
      Declaration.initializers = r.services.flatMap (serverInitializers style) := by
    rw [List.flatMap_assoc]
    simp only [initializers_serverDeclarations]
  have hclient : (r.services.flatMap (clientDeclarations style r)).flatMap
      Declaration.initializers = r.services.flatMap (clientInitializers style r) := by
    rw [List.flatMap_assoc]
    simp only [initializers_clientDeclarations]
  rw [initializers_spacedLines, sections_eq, declarations_eq, List.flatMap_map]
  show List.flatMap Declaration.initializers _ = _
  rw [List.flatMap_append, haliases, List.nil_append, sided, List.flatMap_append]
  congr 1
  · split
    · exact hserver
    · rfl
  · split
    · exact hclient
    · rfl

/-! ### Functions for methods -/

/-- The functions that there are for a method. A server has a requirement in each of its protocols,
the second one with an adapter, unless the method streams both ways. A client has a requirement, an
overload and a function of the struct. -/
def methodFunctions (style : Style) (sides : Sides) (r : Request) (s : Service) (m : Method) :
    List Declaration :=
  (if sides.server then
    streamingRequirement s m
      :: (if m.shape != .bidirectionalStreaming then [ownRequirement s m, adapterMethod style s m]
        else [])
  else [])
    ++ (if sides.client then
      [clientRequirement s m, overload style r s m, clientMethod style s m]
    else [])

section

variable {style : Style} {sides : Sides} {r : Request} {s : Service} {m : Method} {d : Declaration}

theorem mem_methodFunctions_iff :
  d ∈ methodFunctions style sides r s m
    ↔ (sides.server ∧ (d = streamingRequirement s m
        ∨ m.shape ≠ .bidirectionalStreaming
          ∧ (d = ownRequirement s m ∨ d = adapterMethod style s m)))
      ∨ (sides.client ∧ (d = clientRequirement s m ∨ d = overload style r s m
        ∨ d = clientMethod style s m))
  := by
  simp [methodFunctions]

/-- The functions for a method are called by its name. -/
theorem bare_of_mem_methodFunctions (h : d ∈ methodFunctions style sides r s m) :
  ∃ g body, d.bare = .function g body ∧ g.name = m.name.lower
  := by
  obtain ⟨-, rfl | ⟨-, rfl | rfl⟩⟩ | ⟨-, rfl | rfl | rfl⟩ := mem_methodFunctions_iff.mp h
  · exact ⟨_, _, Declaration.bare_documented _ _, rfl⟩
  · exact ⟨_, _, Declaration.bare_documented _ _, rfl⟩
  · exact ⟨_, _, rfl, rfl⟩
  · exact ⟨_, _, Declaration.bare_documented _ _, rfl⟩
  · exact ⟨_, _, rfl, rfl⟩
  · exact ⟨_, _, rfl, rfl⟩

/-- Each function for a method is a member of one of the declarations for its service. -/
theorem exists_member_of_mem_methodFunctions (hm : m ∈ s.methods)
    (h : d ∈ methodFunctions style sides r s m) :
  ∃ e ∈ sideDeclarations style sides r s, ∃ d' ∈ e.members, d'.heading = d.heading
  := by
  have hnarrow : m.shape ≠ .bidirectionalStreaming → m ∈ narrowMethods s := by
    intro hshape
    exact List.mem_filter.mpr ⟨hm, by simpa using hshape⟩
  have hmembers : ∀ (documentation : String) (e : Declaration),
      (style.present documentation e).members = e.members := by
    intro documentation e
    rw [Declaration.members, Declaration.members, Style.bare_present]
  simp only [mem_sideDeclarations_iff]
  obtain ⟨hside, rfl | ⟨hshape, rfl | rfl⟩⟩ | ⟨hside, rfl | rfl | rfl⟩ :=
    mem_methodFunctions_iff.mp h
  · use streamingProtocol style s, .inl ⟨hside, by simp [serverDeclarations]⟩
    rw [streamingProtocol, hmembers]
    exact ⟨_, List.mem_map_of_mem hm, rfl⟩
  · use serviceProtocol style s, .inl ⟨hside, by simp [serverDeclarations]⟩
    rw [serviceProtocol, hmembers]
    exact ⟨_, List.mem_map_of_mem (hnarrow hshape), rfl⟩
  · use adapter style s, .inl ⟨hside, by simp [serverDeclarations]⟩
    rw [adapter, hmembers]
    exact ⟨_, List.mem_map_of_mem (hnarrow hshape), rfl⟩
  · use clientProtocol style s, .inr ⟨hside, by simp [clientDeclarations]⟩
    rw [clientProtocol, hmembers]
    exact ⟨_, List.mem_map_of_mem hm, rfl⟩
  · use overloads style r s, .inr ⟨hside, by simp [clientDeclarations]⟩
    rw [overloads, hmembers]
    exact ⟨_, List.mem_map_of_mem hm, rfl⟩
  · use clientStruct style s, .inr ⟨hside, by simp [clientDeclarations]⟩
    rw [clientStruct, hmembers]
    refine ⟨(clientMethod style s m).documented m.documentation, ?_, ?_⟩
    · apply List.mem_cons_of_mem
      apply List.mem_cons_of_mem
      exact List.mem_map.mpr ⟨m, hm, rfl⟩
    · rw [Declaration.heading, Declaration.bare_documented]
      rfl

end

/-- What the code of a request declares for its methods. -/
structure MethodsDeclared (c : Configuration) (r : Request) (code : List DeepLine) : Prop where
  /-- Each function for a method is there. -/
  heading_mem : ∀ s ∈ r.services, ∀ m ∈ s.methods,
    ∀ d ∈ methodFunctions c.style c.sides r s m, (1, d.heading) ∈ code
  /-- It is declared as a function with the name of the method. -/
  function : ∀ s ∈ r.services, ∀ m ∈ s.methods, m.name.lower ≠ "init" →
    ∀ d ∈ methodFunctions c.style c.sides r s m, opens ("func " ++ m.name.lower) d.heading
  /-- It is declared as an initializer if the name is `init`. -/
  initializer : ∀ s ∈ r.services, ∀ m ∈ s.methods, m.name.lower = "init" →
    ∀ d ∈ methodFunctions c.style c.sides r s m, opens "init" d.heading
  /-- There are no other initializers but those of the structs. -/
  initializers_eq : initializers code
    = (if c.sides.server then r.services.flatMap (serverInitializers c.style) else [])
      ++ (if c.sides.client then r.services.flatMap (clientInitializers c.style r) else [])

theorem methodsDeclared_sections (c : Configuration) {r : Request}
    (h : ∀ s ∈ r.services, s.ListsInertly) :
  MethodsDeclared c r (spacedLines (sections c.style c.sides r))
  := by
  have hopens : ∀ {s : Service} {m : Method} {d : Declaration},
      d ∈ methodFunctions c.style c.sides r s m →
        opens (if m.name.lower == "init" then "init" else "func " ++ m.name.lower) d.heading := by
    intro s m d hd
    obtain ⟨g, body, hbare, hname⟩ := bare_of_mem_methodFunctions hd
    rw [Declaration.heading, hbare, ← hname]
    exact opens_function g body
  constructor
  · intro s hs m hm d hd
    obtain ⟨e, he, d', hd', hheading⟩ := exists_member_of_mem_methodFunctions hm hd
    rw [← hheading]
    apply heading_mem_spacedLines _ hd'
    rw [sections_eq, declarations_eq]
    apply List.mem_map_of_mem
    apply List.mem_append_right
    exact (mem_sided_iff c.style c.sides r e).mpr ⟨s, hs, he⟩
  · intro s _ m _ hname d hd
    have h := hopens hd
    rwa [if_neg (by simpa using hname)] at h
  · intro s _ m _ hname d hd
    have h := hopens hd
    rwa [if_pos (by simpa using hname)] at h
  · exact initializers_sections c.style c.sides h

/-! ### Initializers of structs -/

/-- The line of the initializer that the struct of a service has. -/
def structInitializer (c : Configuration) : DeepLine :=
  (1, c.accessLevel.keyword ++ " init(client: GRPCCore.GRPCClient) \x7b")

theorem heading_clientInitializer (c : Configuration) :
  (1, (clientInitializer c.style).heading) = structInitializer c
  := by
  rw [structInitializer, Configuration.style]
  cases c.accessLevel <;> rfl

theorem initHeadings_eq_nil {function : Method → Declaration} {ms : List Method}
    (h : ∀ m ∈ ms, m.name.lower ≠ "init") :
  initHeadings function ms = []
  := by
  rw [initHeadings, List.map_eq_nil_iff, List.filter_eq_nil_iff]
  intro m hm
  simpa using h m hm

/-- The requirement of a client for a method called `init` is no initializer of a struct. -/
theorem heading_clientRequirement_ne (c : Configuration) (s : Service) {m : Method}
    (h : m.name.lower = "init") :
  (1, (clientRequirement s m).heading) ≠ structInitializer c
  := by
  have hheading : (clientRequirement s m).heading = "init<R>(" := by
    rw [Declaration.heading, clientRequirement, Declaration.bare_documented]
    show (fullSignature none s m).head ++ "(" = _
    rw [fullSignature, callSignature, Signature.head, h]
    rfl
  rw [hheading, structInitializer]
  cases c.accessLevel <;> decide

/-- The structs have the only initializers if no method is called `init`, and only then. -/
theorem MethodsDeclared.initializers_eq_iff {c : Configuration} {r : Request} {code : List DeepLine}
    (h : MethodsDeclared c r code) :
  initializers code = (if c.sides.client then r.services.map (fun _ => structInitializer c) else [])
    ↔ (c.sides.server = false ∧ c.sides.client = false)
      ∨ ∀ s ∈ r.services, ∀ m ∈ s.methods, m.name.lower ≠ "init"
  := by
  have hmem : ∀ s ∈ r.services, ∀ m ∈ s.methods, m.name.lower = "init" →
      ∀ d ∈ methodFunctions c.style c.sides r s m, (1, d.heading) ∈ initializers code := by
    intro s hs m hm hname d hd
    exact List.mem_filter.mpr ⟨h.heading_mem s hs m hm d hd, h.initializer s hs m hm hname d hd⟩
  constructor
  · intro heq
    rw [heq] at hmem
    by_cases hclient : c.sides.client
    · right
      intro s hs m hm hname
      rw [if_pos hclient] at hmem
      have hd : clientRequirement s m ∈ methodFunctions c.style c.sides r s m :=
        mem_methodFunctions_iff.mpr (.inr ⟨hclient, .inl rfl⟩)
      obtain ⟨-, -, hline⟩ := List.mem_map.mp (hmem s hs m hm hname _ hd)
      exact heading_clientRequirement_ne c s hname hline.symm
    · by_cases hserver : c.sides.server
      · right
        intro s hs m hm hname
        rw [if_neg hclient] at hmem
        have hd : streamingRequirement s m ∈ methodFunctions c.style c.sides r s m :=
          mem_methodFunctions_iff.mpr (.inl ⟨hserver, .inl rfl⟩)
        cases hmem s hs m hm hname _ hd
      · left
        exact ⟨by simpa using hserver, by simpa using hclient⟩
  · rw [h.initializers_eq]
    rintro (⟨hserver, hclient⟩ | hnames)
    · rw [hserver, hclient]
      rfl
    · have hserver : r.services.flatMap (serverInitializers c.style) = [] := by
        rw [List.flatMap_eq_nil_iff]
        intro s hs
        have hnarrow : ∀ m ∈ narrowMethods s, m.name.lower ≠ "init" :=
          fun m hm => hnames s hs m (List.mem_of_mem_filter hm)
        rw [serverInitializers, initHeadings_eq_nil (hnames s hs), initHeadings_eq_nil hnarrow,
          initHeadings_eq_nil hnarrow]
        rfl
      have hclient : r.services.flatMap (clientInitializers c.style r)
          = r.services.map (fun _ => structInitializer c) := by
        rw [List.map_eq_flatMap]
        apply List.flatMap_congr
        intro s hs
        rw [clientInitializers, initHeadings_eq_nil (hnames s hs),
          initHeadings_eq_nil (hnames s hs), initHeadings_eq_nil (hnames s hs),
          heading_clientInitializer]
        rfl
      rw [hserver, hclient, ite_self, List.nil_append]

/-! ### Names of a schema -/

namespace Schema

variable {modules : ModuleMap} {files : List File} {f : File} {r : Request}

/-- The methods of a request have the casings of their names. -/
theorem ofIdentifier_of_request (h : request modules files f = .ok r) :
  ∀ v ∈ r.services, ∀ m ∈ v.methods, m.name = Name.ofIdentifier m.name.base
  := by
  simp only [request, bind_eq_ok_iff] at h
  obtain ⟨_, -, _, -, _, -, services, hservices, _, -, ⟨⟩⟩ := h
  intro v hv m hm
  obtain ⟨⟨w, i⟩, -, hw⟩ := (mem_of_mapM_eq_ok hservices v).mp hv
  simp only [Context.service, bind_eq_ok_iff] at hw
  obtain ⟨methods, hmethods, _, -, _, -, ⟨⟩⟩ := hw
  obtain ⟨⟨k, j⟩, -, hk⟩ := (mem_of_mapM_eq_ok hmethods m).mp hm
  simp only [Context.method, bind_eq_ok_iff] at hk
  obtain ⟨_, -, _, -, _, -, _, -, ⟨⟩⟩ := hk
  rfl

/-- The names of the methods of a request are those of the schema. -/
theorem methodNames_of_request (h : request modules files f = .ok r) :
  r.services.flatMap (fun v => v.methods.map (fun m => m.name.base))
    = f.services.flatMap (fun v => v.methods.map (fun m => m.name.shown))
  := by
  have hpairs := congrArg (fun pairs => pairs.flatten.map Prod.snd) (wirePairs_of_request h).2
  simpa [← List.flatMap_def, List.map_flatMap, SwiftStubs.Service.wirePairs, Service.wirePairs,
    Function.comp_def] using hpairs

/-- In the request of a schema file, lists of descriptors are inert. -/
theorem listsInertly_of_request (h : request modules files f = .ok r) :
  ∀ v ∈ r.services, v.ListsInertly
  := by
  intro v hv m hm
  rw [ofIdentifier_of_request h v hv m hm]
  exact inert_of_isAlphanum isAlphanum_of_mem_upperCamel

/-- The methods called `init`, by their names in the schema. -/
theorem forall_lower_ne_init_iff (h : request modules files f = .ok r) :
  (∀ v ∈ r.services, ∀ m ∈ v.methods, m.name.lower ≠ "init")
    ↔ ∀ v ∈ f.services, ∀ m ∈ v.methods,
      upperCamel m.name.shown ≠ "Init" ∧ upperCamel m.name.shown ≠ "INIT"
  := by
  have hlower : (∀ v ∈ r.services, ∀ m ∈ v.methods, m.name.lower ≠ "init")
      ↔ ∀ x ∈ r.services.flatMap (fun v => v.methods.map (fun m => m.name.base)),
        lowerCamel x ≠ "init" := by
    rw [List.forall_mem_flatMap]
    simp only [List.forall_mem_map]
    constructor
    · intro hnames v hv m hm
      have hname := hnames v hv m hm
      rwa [ofIdentifier_of_request h v hv m hm] at hname
    · intro hnames v hv m hm
      rw [ofIdentifier_of_request h v hv m hm]
      exact hnames v hv m hm
  rw [hlower, methodNames_of_request h, List.forall_mem_flatMap]
  simp only [List.forall_mem_map, ne_eq, lowerCamel_eq_init_iff, not_or]

/-- Methods become functions, except for those called `init`. The text generated for a schema
file consists of the lines of its comment and its imports, and those of its code. In the code there
is each of the functions for a method of the schema, with its name in lower camel case behind
`func`. If this name is `init`, which happens for `Init` and `INIT`, there are initializers instead.
So the only initializers are those of the structs, one for each service, if and only if nothing is
generated for servers and clients or there is no such name. -/
theorem methods_become_functions_but_init (hr : request modules files f = .ok r)
    {m : Memory} {c : Configuration} {s : SourceFile} (hs : r.generate m c = .ok s) :
  (∀ v ∈ r.services, ∀ m ∈ v.methods, m.name = Name.ofIdentifier m.name.base
      ∧ (m.name.lower = "init" ↔ m.name.upper = "Init" ∨ m.name.upper = "INIT"))
    ∧ ∃ n, (r.withExtraImports c).file c = .ok n
      ∧ s.contents = String.intercalate "\n"
        ((level (n.contents.commentLines ++ n.contents.importLines) ++ n.contents.code).map
          (DeepLine.text c.indentation))
      ∧ MethodsDeclared c r n.contents.code
      ∧ (initializers n.contents.code
          = (if c.sides.client then r.services.map (fun _ => structInitializer c) else [])
        ↔ (c.sides.server = false ∧ c.sides.client = false)
          ∨ ∀ v ∈ f.services, ∀ m ∈ v.methods,
            upperCamel m.name.shown ≠ "Init" ∧ upperCamel m.name.shown ≠ "INIT")
  := by
  constructor
  · intro v hv m hm
    have hname := ofIdentifier_of_request hr v hv m hm
    refine ⟨hname, ?_⟩
    rw [hname]
    exact lowerCamel_eq_init_iff m.name.base
  · obtain ⟨n, hn, -, htext⟩ := (Request.generate_eq_ok_iff m c r s).mp hs
    obtain ⟨-, hcontents⟩ := (textOf_eq_ok_iff _ _ _ _).mp htext
    obtain ⟨-, is, -, hfile⟩ := (Request.file_eq_ok_iff c _ n).mp hn
    have hdeclared : MethodsDeclared c r n.contents.code := by
      rw [hfile]
      exact methodsDeclared_sections c (listsInertly_of_request hr)
    rw [File.lines_eq] at hcontents
    refine ⟨n, hn, hcontents, hdeclared, ?_⟩
    rw [← forall_lower_ne_init_iff hr]
    exact hdeclared.initializers_eq_iff

/-! ### A service with one method -/

/-- A file with a service that has one method. -/
def accountsFile (method : String) : File where
  name := "accounts.proto"
  messages := [.mk "Entry" []]
  services := [
    { name := "Accounts"
      methods := [{ name := .text method, inputType := ".Entry", outputType := ".Entry" }] }]

/-- The request of such a file. -/
def accountsRequest (method : String) : Request where
  fileName := "accounts.proto"
  leadingTrivia := banner "accounts.proto"
  dependencies := [{ moduleName := protobufModule }]
  services := [
    { name := Name.ofIdentifier "Accounts"
      ns := (accountsFile method).namespaceName
      methods := [
        { name := Name.ofIdentifier method, inputType := "Entry", outputType := "Entry" }] }]

theorem request_accountsFile (method : String) :
  request Dictionary.empty [accountsFile method] (accountsFile method)
    = .ok (accountsRequest method)
  := by
  have hneeded : neededModules Dictionary.empty (byName [accountsFile method]) (accountsFile method)
      = .ok [] := by
    apply neededModules_alone rfl
  rw [request, knownFiles_eq rfl, hneeded]
  rfl

theorem exists_generate_accountsRequest (method : String)
    (h : (accountsRequest method).check = .ok ()) :
  ∃ s, (accountsRequest method).generate .ample .standard = .ok s
  := by
  rw [Request.exists_generate_eq_ok_iff]
  exact ⟨(Request.check_eq_ok_iff _).mp h, Request.writable_of_moderate (by decide) _⟩

/-- With a method of another name, the struct has the only initializer. -/
theorem open_becomes_functions :
  request Dictionary.empty [accountsFile "Open"] (accountsFile "Open")
      = .ok (accountsRequest "Open")
    ∧ ∃ s n, (accountsRequest "Open").generate .ample .standard = .ok s
      ∧ ((accountsRequest "Open").withExtraImports .standard).file .standard = .ok n
      ∧ initializers n.contents.code = [(1, "internal init(client: GRPCCore.GRPCClient) \x7b")]
  := by
  have hrequest := request_accountsFile "Open"
  obtain ⟨s, hs⟩ := exists_generate_accountsRequest "Open" rfl
  obtain ⟨-, n, hn, -, -, honly⟩ := methods_become_functions_but_init hrequest hs
  refine ⟨hrequest, s, n, hs, hn, ?_⟩
  apply honly.mpr
  right
  decide

/-- A method `Init` becomes an initializer at six places, beside the one of the struct. -/
theorem init_becomes_initializers :
  request Dictionary.empty [accountsFile "Init"] (accountsFile "Init")
      = .ok (accountsRequest "Init")
    ∧ ∃ s n, (accountsRequest "Init").generate .ample .standard = .ok s
      ∧ ((accountsRequest "Init").withExtraImports .standard).file .standard = .ok n
      ∧ initializers n.contents.code = [
        (1, "init(request: ServerRequest.Stream<Accounts.Method.Init.Input>) async throws"
          ++ " -> ServerResponse.Stream<Accounts.Method.Init.Output>"),
        (1, "init(request: ServerRequest.Single<Accounts.Method.Init.Input>) async throws"
          ++ " -> ServerResponse.Single<Accounts.Method.Init.Output>"),
        (1, "internal init(request: ServerRequest.Stream<Accounts.Method.Init.Input>) async throws"
          ++ " -> ServerResponse.Stream<Accounts.Method.Init.Output> \x7b"),
        (1, "init<R>("), (1, "internal init<R>("),
        (1, "internal init(client: GRPCCore.GRPCClient) \x7b"), (1, "internal init<R>(")]
  := by
  have hrequest := request_accountsFile "Init"
  obtain ⟨s, hs⟩ := exists_generate_accountsRequest "Init" rfl
  obtain ⟨n, hn, -, -⟩ := (Request.generate_eq_ok_iff _ _ _ s).mp hs
  obtain ⟨-, is, -, hfile⟩ := (Request.file_eq_ok_iff _ _ n).mp hn
  have hdeclared : MethodsDeclared .standard (accountsRequest "Init") n.contents.code := by
    rw [hfile]
    exact methodsDeclared_sections .standard (listsInertly_of_request hrequest)
  refine ⟨hrequest, s, n, hs, hn, ?_⟩
  rw [hdeclared.initializers_eq]
  decide +kernel

end Schema

end SwiftStubs
