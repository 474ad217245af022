import SwiftStubs.Proofs.Acceptance

/-!
# Rejected requests

A request that is not acceptable is rejected, and the error says why. `Request.Breaks` gives the
meaning of an error: which dependency, which two services or which two methods it is about, and
what identifier they share. Rules are checked in an order, so the code of an error also says which
rules the request keeps; `Request.Justified` puts the two together.
-/

namespace SwiftStubs

open Swift

/-! ### Steps that fail -/

section Steps

variable {α β ε : Type}

/-- Of two steps, the first fails or the second does behind it. -/
theorem bind_eq_error_iff {x : Except ε α} {f : α → Except ε β} {e : ε} :
  (x >>= f) = .error e ↔ x = .error e ∨ ∃ a, x = .ok a ∧ f a = .error e
  := by
  cases x with
  | error d =>
      constructor
      · rintro ⟨⟩
        exact Or.inl rfl
      · rintro (⟨⟨⟩⟩ | ⟨_, ⟨⟩, _⟩)
        rfl
  | ok a =>
      constructor
      · intro h
        exact Or.inr ⟨a, rfl, h⟩
      · rintro (⟨⟨⟩⟩ | ⟨_, ⟨⟩, h⟩)
        exact h

theorem then_eq_error_iff {x : Except ε Unit} {y : Except ε β} {e : ε} :
  (x >>= fun _ => y) = .error e ↔ x = .error e ∨ (x = .ok () ∧ y = .error e)
  := by
  rw [bind_eq_error_iff]
  apply or_congr_right
  constructor
  · rintro ⟨_, hx, hy⟩
    exact ⟨hx, hy⟩
  · rintro ⟨hx, hy⟩
    exact ⟨(), hx, hy⟩

/-- If a step for every element of a list fails, it does so for one of them. -/
theorem exists_of_forM_eq_error {f : α → Except ε Unit} {xs : List α} {e : ε}
    (h : xs.forM f = .error e) :
  ∃ x ∈ xs, f x = .error e
  := by
  induction xs with
  | nil => cases h
  | cons x xs ih =>
      rw [List.forM, then_eq_error_iff] at h
      obtain hx | ⟨-, hxs⟩ := h
      · exact ⟨x, List.mem_cons_self, hx⟩
      · obtain ⟨y, hy, hfy⟩ := ih hxs
        exact ⟨y, List.mem_cons_of_mem x hy, hfy⟩

/-- If a result for some element of a list is missing, it is missing for one of them. -/
theorem exists_of_mapM_eq_error {f : α → Except ε β} {xs : List α} {e : ε}
    (h : xs.mapM f = .error e) :
  ∃ x ∈ xs, f x = .error e
  := by
  induction xs with
  | nil => cases h
  | cons x xs ih =>
      rw [List.mapM_cons, bind_eq_error_iff] at h
      obtain hx | ⟨y, -, hxs⟩ := h
      · exact ⟨x, List.mem_cons_self, hx⟩
      · obtain hxs | ⟨ys, -, ⟨⟩⟩ := bind_eq_error_iff.mp hxs
        obtain ⟨y, hy, hfy⟩ := ih hxs
        exact ⟨y, List.mem_cons_of_mem x hy, hfy⟩

end Steps

/-! ### Repeated names -/

/-- A text that is found to be repeated stands at two places, or once beside the seen ones. -/
theorem firstRepeated?_eq_some {seen xs : List String} {x : String}
    (h : firstRepeated? seen xs = some x) :
  [x, x].Sublist xs ∨ (x ∈ seen ∧ x ∈ xs)
  := by
  induction xs generalizing seen with
  | nil => cases h
  | cons y xs ih =>
      rw [firstRepeated?] at h
      split at h
      · next hseen =>
          obtain rfl := Option.some.inj h
          exact Or.inr ⟨hseen, List.mem_cons_self⟩
      · obtain htwice | ⟨hseen, hx⟩ := ih h
        · exact Or.inl (htwice.cons y)
        · obtain rfl | hseen := List.mem_cons.mp hseen
          · exact Or.inl ((List.singleton_sublist.mpr hx).cons_cons x)
          · exact Or.inr ⟨hseen, List.mem_cons_of_mem y hx⟩

/-- If names are not distinct, the error is about two elements of one name. -/
theorem requireDistinct_eq_error {α : Type} {error : String → RequestError} {xs : List α}
    {name : α → String} {e : RequestError} (h : requireDistinct error (xs.map name) = .error e) :
  ∃ a b, [a, b].Sublist xs ∧ name a = name b ∧ e = error (name a)
  := by
  rw [requireDistinct] at h
  split at h
  · cases h
  · next x hx =>
      cases h
      obtain htwice | ⟨hseen, -⟩ := firstRepeated?_eq_some hx
      · obtain ⟨ys, hys, hnames⟩ := List.sublist_map_iff.mp htwice
        obtain ⟨a, zs, rfl, rfl, hzs⟩ := List.map_eq_cons_iff.mp hnames.symm
        obtain ⟨b, ws, rfl, hb, hws⟩ := List.map_eq_cons_iff.mp hzs
        obtain rfl := List.map_eq_nil_iff.mp hws
        exact ⟨a, b, hys, hb.symm, rfl⟩
      · cases hseen

/-! ### What errors mean -/

/-- What an error says about a request: the rule that it is about is broken, and by the identifier
that it names. Two services or methods stand at different places, though they may be alike. -/
inductive Request.Breaks (r : Request) : RequestError → Prop
  | kind {d : Dependency} (hd : d ∈ r.dependencies) {item : DependencyItem}
    (hitem : d.item = some item) (hkind : ∀ k : ImportKind, k.keyword ≠ item.kind) :
    r.Breaks (.invalidKind item.kind)
  | wireName {s t : Service} (h : [s, t].Sublist r.services) (hname : s.wireName = t.wireName) :
    r.Breaks (.repeatedWireName s.wireName)
  | namespaceName {s t : Service} (hs : s ∈ r.services) (ht : t ∈ r.services)
    (hlone : s.ns.upper = "") (hspace : t.ns.upper ≠ "") (hname : s.name.upper = t.ns.upper) :
    r.Breaks (.serviceNamedAsNamespace s.name.upper)
  | loneService {s t : Service} (h : [s, t].Sublist r.services) (hs : s.ns.upper = "")
    (ht : t.ns.upper = "") (hname : s.name.upper = t.name.upper) :
    r.Breaks (.repeatedLoneService s.name.upper)
  /-- The namespace is spelled as some service in it does. -/
  | service {s t u : Service} (h : [s, t].Sublist r.services) (hu : u ∈ r.services)
    (hspace : u.ns.upper ≠ "") (hs : s.ns.upper = u.ns.upper) (ht : t.ns.upper = u.ns.upper)
    (hname : s.name.upper = t.name.upper) :
    r.Breaks (.repeatedService s.name.upper u.ns.base)
  | methodBase {s : Service} (hs : s ∈ r.services) {m m' : Method} (h : [m, m'].Sublist s.methods)
    (hname : m.name.base = m'.name.base) :
    r.Breaks (.repeatedMethod .base m.name.base s.name.base)
  | methodUpper {s : Service} (hs : s ∈ r.services) {m m' : Method} (h : [m, m'].Sublist s.methods)
    (hname : m.name.upper = m'.name.upper) :
    r.Breaks (.repeatedMethod .upper m.name.upper s.name.base)
  | methodLower {s : Service} (hs : s ∈ r.services) {m m' : Method} (h : [m, m'].Sublist s.methods)
    (hname : m.name.lower = m'.name.lower) :
    r.Breaks (.repeatedMethod .lower m.name.lower s.name.base)

/-- The kinds of imports exist. -/
def Request.KindsExist (r : Request) : Prop :=
  ∀ d ∈ r.dependencies, d.HasKind

/-- Services are told apart by their names on the wire, from namespaces, and from each other within
a namespace or without one. -/
def Request.ServicesTold (r : Request) : Prop :=
  (r.services.map Service.wireName).Nodup ∧ LoneServicesApart r.services
    ∧ ServicesApart r.services

namespace Request.Breaks

variable {r : Request} {e : RequestError}

theorem not_kindsExist (h : r.Breaks e) (hcode : e.code = .invalidKind) :
  ¬ r.KindsExist
  := by
  intro hkinds
  cases h with
  | kind hd hitem hkind =>
      obtain ⟨k, hk⟩ := hkinds _ hd _ hitem
      apply hkind k hk
  | wireName | namespaceName | loneService | service => cases hcode
  | methodBase | methodUpper | methodLower => cases hcode

theorem not_servicesTold (h : r.Breaks e) (hcode : e.code = .nonUniqueServiceName) :
  ¬ r.ServicesTold
  := by
  rintro ⟨hwire, hlone, hservices⟩
  cases h with
  | wireName h hname =>
      apply List.pairwise_iff_forall_sublist.mp (List.pairwise_map.mp hwire) h hname
  | namespaceName hs ht hempty hspace hname => apply hlone _ hs _ ht hempty hspace hname
  | loneService h hs ht hname =>
      apply List.pairwise_iff_forall_sublist.mp hservices h (hs.trans ht.symm) hname
  | service h hu hspace hs ht hname =>
      apply List.pairwise_iff_forall_sublist.mp hservices h (hs.trans ht.symm) hname
  | kind | methodBase | methodUpper | methodLower => cases hcode

end Request.Breaks

/-! ### Why checks fail -/

section Checks

variable {r : Request} {e : RequestError}

theorem breaks_of_checkDependencies (h : checkDependencies r.dependencies = .error e) :
  r.Breaks e ∧ e.code = .invalidKind
  := by
  obtain ⟨d, hd, he⟩ := exists_of_forM_eq_error h
  rw [Dependency.toImport] at he
  split at he
  · cases he
  · next item hitem =>
      split at he
      · next hkind =>
          cases he
          have hnone := (ImportKind.ofKeyword?_eq_none_iff item.kind).mp hkind
          exact ⟨Request.Breaks.kind hd hitem hnone, rfl⟩
      · cases he

theorem breaks_of_checkWireNames (h : checkWireNames r.services = .error e) :
  r.Breaks e ∧ e.code = .nonUniqueServiceName
  := by
  obtain ⟨s, t, hst, hname, rfl⟩ := requireDistinct_eq_error h
  exact ⟨Request.Breaks.wireName hst hname, rfl⟩

theorem breaks_of_checkLoneServices (h : checkLoneServices r.services = .error e) :
  r.Breaks e ∧ e.code = .nonUniqueServiceName
  := by
  rw [checkLoneServices] at h
  split at h
  · cases h
  · next s hfind =>
      cases h
      obtain ⟨hs, hlone⟩ := (mem_servicesOf_iff _ _ s).mp (List.mem_of_find?_eq_some hfind)
      have hspaces := List.find?_some hfind
      obtain ⟨hmem, hspace⟩ := List.mem_filter.mp (List.contains_iff_mem.mp hspaces)
      obtain ⟨t, ht, hname⟩ := (mem_namespaces_iff _ _).mp hmem
      have hne : t.ns.upper ≠ "" := by
        rw [hname]
        simpa using hspace
      exact ⟨Request.Breaks.namespaceName hs ht hlone hne hname.symm, rfl⟩

/-- Two services of one group have a place each in the whole list. -/
theorem sublist_of_servicesOf {ns : String} {services : List Service} {s t : Service}
    (h : [s, t].Sublist (servicesOf ns services)) :
  [s, t].Sublist services ∧ s.ns.upper = ns ∧ t.ns.upper = ns
  := by
  obtain ⟨-, hs⟩ := (mem_servicesOf_iff ns services s).mp (h.subset List.mem_cons_self)
  obtain ⟨-, ht⟩ := (mem_servicesOf_iff ns services t).mp
    (h.subset (List.mem_cons_of_mem s List.mem_cons_self))
  exact ⟨h.trans List.filter_sublist, hs, ht⟩

theorem breaks_of_checkNamespace {ns : String}
    (h : checkNamespace r.services ns = .error e) :
  r.Breaks e ∧ e.code = .nonUniqueServiceName
  := by
  obtain ⟨s, t, hgroup, hname, rfl⟩ := requireDistinct_eq_error h
  obtain ⟨hst, hs, ht⟩ := sublist_of_servicesOf hgroup
  rw [repeatedIn]
  split
  · next hempty =>
      have hns : ns = "" := by simpa using hempty
      rw [hns] at hs ht
      exact ⟨Request.Breaks.loneService hst hs ht hname, rfl⟩
  · next hspace =>
      have hns : ns ≠ "" := by simpa using hspace
      obtain ⟨u, us, hus⟩ := List.exists_cons_of_ne_nil
        (List.ne_nil_of_mem (hgroup.subset List.mem_cons_self))
      have hu : u ∈ servicesOf ns r.services := by
        rw [hus]
        exact List.mem_cons_self
      obtain ⟨hu, hu'⟩ := (mem_servicesOf_iff ns r.services u).mp hu
      rw [← hu'] at hs ht hns
      rw [hus]
      exact ⟨Request.Breaks.service hst hu hns hs ht hname, rfl⟩

theorem breaks_of_checkServiceNames (h : checkServiceNames r.services = .error e) :
  r.Breaks e ∧ e.code = .nonUniqueServiceName
  := by
  rw [checkServiceNames, then_eq_error_iff] at h
  obtain hlone | ⟨-, hgroups⟩ := h
  · apply breaks_of_checkLoneServices hlone
  · obtain ⟨ns, -, hns⟩ := exists_of_forM_eq_error hgroups
    apply breaks_of_checkNamespace hns

theorem breaks_of_checkMethodNames {s : Service} (hs : s ∈ r.services)
    (h : checkMethodNames s = .error e) :
  r.Breaks e ∧ e.code = .nonUniqueMethodName
  := by
  obtain ⟨spelling, -, hspelling⟩ := exists_of_forM_eq_error h
  obtain ⟨m, m', hmm, hname, rfl⟩ := requireDistinct_eq_error hspelling
  cases spelling with
  | base => exact ⟨Request.Breaks.methodBase hs hmm hname, rfl⟩
  | upper => exact ⟨Request.Breaks.methodUpper hs hmm hname, rfl⟩
  | lower => exact ⟨Request.Breaks.methodLower hs hmm hname, rfl⟩

/-- The error of a request is justified by it, and its code says which rules come before. -/
theorem Request.breaks_of_check (h : r.check = .error e) :
  r.Breaks e
    ∧ (e.code = .invalidKind
      ∨ (e.code = .nonUniqueServiceName ∧ r.KindsExist)
      ∨ (e.code = .nonUniqueMethodName ∧ r.KindsExist ∧ r.ServicesTold))
  := by
  simp only [Request.check, then_eq_error_iff, checkDependencies_eq_ok_iff, checkWireNames,
    requireDistinct_eq_ok_iff, checkServiceNames_eq_ok_iff] at h
  obtain hdependencies | ⟨hkinds, hwire | ⟨hnames, hservices | ⟨hapart, hmethods⟩⟩⟩ := h
  · obtain ⟨hbreaks, hcode⟩ := breaks_of_checkDependencies hdependencies
    exact ⟨hbreaks, Or.inl hcode⟩
  · obtain ⟨hbreaks, hcode⟩ := breaks_of_checkWireNames hwire
    exact ⟨hbreaks, Or.inr (Or.inl ⟨hcode, hkinds⟩)⟩
  · obtain ⟨hbreaks, hcode⟩ := breaks_of_checkServiceNames hservices
    exact ⟨hbreaks, Or.inr (Or.inl ⟨hcode, hkinds⟩)⟩
  · obtain ⟨s, hs, hmethod⟩ := exists_of_forM_eq_error hmethods
    obtain ⟨hbreaks, hcode⟩ := breaks_of_checkMethodNames hs hmethod
    exact ⟨hbreaks, Or.inr (Or.inr ⟨hcode, hkinds, hnames, hapart⟩)⟩

end Checks

/-! ### Messages -/

/-- The identifier that an error is about. -/
def RequestError.identifier : RequestError → String
  | .invalidKind kind => kind
  | .repeatedWireName name => name
  | .serviceNamedAsNamespace name => name
  | .repeatedLoneService name => name
  | .repeatedService name _ => name
  | .repeatedMethod _ name _ => name

/-- The same error about another identifier. -/
def RequestError.about (e : RequestError) (name : String) : RequestError :=
  match e with
  | .invalidKind _ => .invalidKind name
  | .repeatedWireName _ => .repeatedWireName name
  | .serviceNamedAsNamespace _ => .serviceNamedAsNamespace name
  | .repeatedLoneService _ => .repeatedLoneService name
  | .repeatedService _ ns => .repeatedService name ns
  | .repeatedMethod spelling _ service => .repeatedMethod spelling name service

theorem RequestError.about_identifier (e : RequestError) :
  e.about e.identifier = e
  := by
  cases e <;> rfl

/-- A text with one place for a name, and the same words around it whatever the name is. -/
def Framed (text : String → String) : Prop :=
  ∃ front back, ∀ name, text name = front ++ name ++ back

theorem framed_behind (front : String) :
  Framed (fun name => front ++ name)
  := by
  use front, ""
  intro name
  exact String.append_empty.symm

theorem Framed.append {text : String → String} (h : Framed text) (t : String) :
  Framed (fun name => text name ++ t)
  := by
  obtain ⟨front, back, htext⟩ := h
  use front, back ++ t
  intro name
  show text name ++ t = _
  rw [htext, String.append_assoc]

theorem RequestError.framed_message (e : RequestError) :
  Framed (fun name => (e.about name).message)
  := by
  cases e with
  | invalidKind kind => exact framed_behind _
  | repeatedWireName name => exact (framed_behind _).append _
  | serviceNamedAsNamespace name => exact ((framed_behind _).append _).append _
  | repeatedLoneService name => exact (framed_behind _).append _
  | repeatedService name ns => exact (((framed_behind _).append _).append _).append _
  | repeatedMethod spelling name service =>
      exact (((((framed_behind _).append _).append _).append _).append _).append _

/-! ### Exactness -/

/-- An error is the right one for a request: its code is that of the first rule that is broken, and
the identifier that its message quotes is one that breaks it. -/
structure Request.Justified (r : Request) (e : RequestError) : Prop where
  kind : e.code = .invalidKind ↔ ¬ r.KindsExist
  service : r.KindsExist → (e.code = .nonUniqueServiceName ↔ ¬ r.ServicesTold)
  method : r.KindsExist → r.ServicesTold → e.code = .nonUniqueMethodName
  breaks : r.Breaks e
  quotes : ∃ front back, e.message = front ++ e.identifier ++ back
    ∧ ∀ name, (e.about name).message = front ++ name ++ back

theorem Request.justified_of_check {r : Request} {e : RequestError} (h : r.check = .error e) :
  r.Justified e
  := by
  obtain ⟨hbreaks, hcode⟩ := breaks_of_check h
  have hkind : e.code = .invalidKind ↔ ¬ r.KindsExist := by
    constructor
    · apply hbreaks.not_kindsExist
    · intro hkinds
      obtain hcode | ⟨-, hexist⟩ | ⟨-, hexist, -⟩ := hcode
      · exact hcode
      · contradiction
      · contradiction
  have hservice : r.KindsExist → (e.code = .nonUniqueServiceName ↔ ¬ r.ServicesTold) := by
    intro hkinds
    constructor
    · apply hbreaks.not_servicesTold
    · intro hservices
      obtain hcode | ⟨hcode, -⟩ | ⟨-, -, htold⟩ := hcode
      · exact absurd hkinds (hkind.mp hcode)
      · exact hcode
      · contradiction
  refine ⟨hkind, hservice, ?_, hbreaks, ?_⟩
  · intro hkinds htold
    obtain hcode | ⟨hcode, -⟩ | ⟨hcode, -⟩ := hcode
    · exact absurd hkinds (hkind.mp hcode)
    · exact absurd htold ((hservice hkinds).mp hcode)
    · exact hcode
  · obtain ⟨front, back, hmessage⟩ := e.framed_message
    have hself : (e.about e.identifier).message = front ++ e.identifier ++ back :=
      hmessage e.identifier
    rw [e.about_identifier] at hself
    exact ⟨front, back, hself, hmessage⟩

/-- A request is accepted if and only if it is acceptable, and the error of any other is
justified. -/
theorem Request.check_exact (r : Request) :
  (r.check = .ok () ↔ r.Acceptable) ∧ ∀ e, r.check = .error e → r.Justified e
  := by
  use r.check_eq_ok_iff
  intro e he
  apply justified_of_check he

/-- A request with three services in a namespace that is spelled in two ways. Two of the services
have one name in upper case, and the third has two methods with one name in lower case. -/
def Request.tangled : Request where
  fileName := "tangled.proto"
  services := [
    { name := ⟨"Greeter", "Greeter", "greeter"⟩
      ns := ⟨"hello.world", "Hello_World", "hello_World"⟩
      methods := [
        { name := ⟨"say_hello", "SayHello", "sayHello"⟩
          inputType := "HelloRequest"
          outputType := "HelloReply" },
        { name := ⟨"Say_hello", "Say_hello", "sayHello"⟩
          inputType := "HelloRequest"
          outputType := "HelloReply" }] },
    { name := ⟨"echo_back", "EchoBack", "echoBack"⟩
      ns := ⟨"hello_world", "Hello_World", "hello_World"⟩ },
    { name := ⟨"EchoBack", "EchoBack", "echoBack"⟩
      ns := ⟨"hello_world", "Hello_World", "hello_World"⟩ }]

/-- The services are complained about before the methods, under the first spelling of their
namespace. -/
theorem Request.tangled_justified :
  tangled.check = .error (.repeatedService "EchoBack" "hello.world")
    ∧ tangled.Justified (.repeatedService "EchoBack" "hello.world")
  := by
  have h : tangled.check = .error (.repeatedService "EchoBack" "hello.world") := rfl
  exact ⟨h, (check_exact tangled).2 _ h⟩

end SwiftStubs
