import SwiftStubs.Stub.File
import Mathlib.Data.List.Nodup

/-!
# Accepted requests

The checks of a request walk over its services one after the other and stop at the first offence.
What they establish together has nothing to do with an order: `Request.Acceptable` says that the
kinds of imports exist and that certain names differ, and `Request.check_eq_ok_iff` says that
exactly the acceptable requests are accepted. An accepted request always has a file, with its
sections as the configuration asks for them.
-/

namespace SwiftStubs

open Swift Stub

/-! ### Steps that succeed -/

section Steps

variable {α β ε : Type}

/-- Two steps succeed if the first does and the second does from there. -/
theorem bind_eq_ok_iff {x : Except ε α} {f : α → Except ε β} {b : β} :
  (x >>= f) = .ok b ↔ ∃ a, x = .ok a ∧ f a = .ok b
  := by
  cases x with
  | error e =>
      constructor
      · rintro ⟨⟩
      · rintro ⟨_, ⟨⟩, _⟩
  | ok a =>
      constructor
      · intro h
        use a, rfl
        apply h
      · rintro ⟨_, ⟨⟩, h⟩
        apply h

theorem exists_bind_eq_ok_iff {x : Except ε α} {f : α → Except ε β} :
  (∃ b, (x >>= f) = .ok b) ↔ ∃ a, x = .ok a ∧ ∃ b, f a = .ok b
  := by
  simp only [bind_eq_ok_iff]
  constructor
  · rintro ⟨b, a, ha, hb⟩
    exact ⟨a, ha, b, hb⟩
  · rintro ⟨a, ha, b, hb⟩
    exact ⟨b, a, ha, hb⟩

/-- If the first of two steps has no result to give, the second does not depend on it. -/
theorem then_eq_ok_iff {x : Except ε Unit} {y : Except ε β} {b : β} :
  (x >>= fun _ => y) = .ok b ↔ x = .ok () ∧ y = .ok b
  := by
  rw [bind_eq_ok_iff]
  constructor
  · rintro ⟨_, hx, hy⟩
    exact ⟨hx, hy⟩
  · rintro ⟨hx, hy⟩
    exact ⟨(), hx, hy⟩

/-- A step for every element of a list succeeds if every single one does. -/
theorem forM_eq_ok_iff {f : α → Except ε Unit} {xs : List α} :
  xs.forM f = .ok () ↔ ∀ x ∈ xs, f x = .ok ()
  := by
  induction xs with
  | nil =>
      constructor
      · intro _ x hx
        cases hx
      · intro _
        rfl
  | cons x xs ih =>
      rw [List.forM, then_eq_ok_iff, List.forall_mem_cons, ih]

/-- A result for every element of a list is found one by one. -/
theorem mapM_eq_ok_iff {f : α → Except ε β} {xs : List α} {ys : List β} :
  xs.mapM f = .ok ys ↔ List.Forall₂ (fun x y => f x = .ok y) xs ys
  := by
  induction xs generalizing ys with
  | nil =>
      rw [List.mapM_nil, List.forall₂_nil_left_iff]
      constructor
      · rintro ⟨⟩
        rfl
      · rintro rfl
        rfl
  | cons x xs ih =>
      rw [List.mapM_cons, List.forall₂_cons_left_iff, bind_eq_ok_iff]
      constructor
      · rintro ⟨y, hy, h⟩
        obtain ⟨ys, hys, ⟨⟩⟩ := bind_eq_ok_iff.mp h
        exact ⟨y, ys, hy, ih.mp hys, rfl⟩
      · rintro ⟨y, ys, hy, hys, rfl⟩
        use y, hy
        rw [ih.mpr hys]
        rfl

/-- The results for a list are those of its elements. -/
theorem mem_of_mapM_eq_ok {f : α → Except ε β} {xs : List α} {ys : List β}
    (h : xs.mapM f = .ok ys) (y : β) :
  y ∈ ys ↔ ∃ x ∈ xs, f x = .ok y
  := by
  rw [mapM_eq_ok_iff] at h
  induction h with
  | nil => simp
  | cons hx _ ih => simp [ih, hx, eq_comm]

/-- There is a list related to another one if there is something related to every element. -/
theorem exists_forall₂_iff {R : α → β → Prop} {xs : List α} :
  (∃ ys, List.Forall₂ R xs ys) ↔ ∀ x ∈ xs, ∃ y, R x y
  := by
  induction xs with
  | nil => simp
  | cons x xs ih =>
      rw [List.forall_mem_cons, ← ih]
      constructor
      · rintro ⟨_, _ | ⟨hy, hys⟩⟩
        exact ⟨⟨_, hy⟩, ⟨_, hys⟩⟩
      · rintro ⟨⟨y, hy⟩, ⟨ys, hys⟩⟩
        exact ⟨y :: ys, .cons hy hys⟩

theorem exists_mapM_eq_ok_iff {f : α → Except ε β} {xs : List α} :
  (∃ ys, xs.mapM f = .ok ys) ↔ ∀ x ∈ xs, ∃ y, f x = .ok y
  := by
  simp only [mapM_eq_ok_iff, exists_forall₂_iff]

/-- An error in another form is an error still. -/
theorem mapError_eq_ok_iff {δ : Type} {f : ε → δ} {x : Except ε α} {a : α} :
  mapError f x = .ok a ↔ x = .ok a
  := by
  cases x with
  | error e => simp [mapError]
  | ok b => simp [mapError]

end Steps

/-! ### Distinct names -/

/-- No repetition is found if there is none, neither among the texts nor with the seen ones. -/
theorem firstRepeated?_eq_none_iff (seen xs : List String) :
  firstRepeated? seen xs = none ↔ xs.Nodup ∧ ∀ x ∈ xs, x ∉ seen
  := by
  induction xs generalizing seen with
  | nil => simp [firstRepeated?]
  | cons x xs ih =>
      rw [firstRepeated?, List.nodup_cons, List.forall_mem_cons]
      by_cases hx : x ∈ seen
      · simp [hx]
      · rw [if_neg hx, ih]
        simp only [List.mem_cons, not_or, forall_and]
        constructor
        · rintro ⟨hxs, hne, hseen⟩
          exact ⟨⟨fun h => hne x h rfl, hxs⟩, hx, hseen⟩
        · rintro ⟨⟨hmem, hxs⟩, -, hseen⟩
          refine ⟨hxs, ?_, hseen⟩
          rintro y hy rfl
          apply hmem hy

theorem requireDistinct_eq_ok_iff (error : String → RequestError) (xs : List String) :
  requireDistinct error xs = .ok () ↔ xs.Nodup
  := by
  have h := firstRepeated?_eq_none_iff [] xs
  rw [requireDistinct]
  cases hx : firstRepeated? [] xs with
  | none =>
      rw [hx] at h
      simpa using h
  | some x =>
      rw [hx] at h
      simpa using h

/-! ### Kinds of imports -/

theorem ImportKind.mem_all (k : ImportKind) :
  k ∈ all
  := by
  cases k <;> decide

/-- A keyword has a kind if it is the keyword of one. -/
theorem ImportKind.ofKeyword?_eq_none_iff (s : String) :
  ofKeyword? s = none ↔ ∀ k : ImportKind, k.keyword ≠ s
  := by
  rw [ofKeyword?, List.find?_eq_none]
  constructor
  · intro h k hk
    apply h k (mem_all k)
    simpa using hk
  · intro h k _
    simpa using h k

/-- A dependency names a kind of import that there is, or none. -/
def Dependency.HasKind (d : Dependency) : Prop :=
  ∀ item, d.item = some item → ∃ k : ImportKind, k.keyword = item.kind

theorem Dependency.toImport_eq_ok_iff (d : Dependency) :
  (∃ i, d.toImport = .ok i) ↔ d.HasKind
  := by
  rw [toImport, HasKind]
  cases hd : d.item with
  | none => simp
  | some item =>
      cases hk : ImportKind.ofKeyword? item.kind with
      | none =>
          have hnone := (ImportKind.ofKeyword?_eq_none_iff item.kind).mp hk
          simpa [hk] using hnone
      | some k =>
          have hsome : ¬ ∀ k : ImportKind, k.keyword ≠ item.kind := by
            rw [← ImportKind.ofKeyword?_eq_none_iff, hk]
            simp
          push Not at hsome
          simpa [hk] using hsome

theorem checkDependencies_eq_ok_iff (ds : List Dependency) :
  checkDependencies ds = .ok () ↔ ∀ d ∈ ds, d.HasKind
  := by
  rw [checkDependencies, forM_eq_ok_iff]
  apply forall₂_congr
  intro d _
  rw [← Dependency.toImport_eq_ok_iff, bind_eq_ok_iff]
  constructor
  · rintro ⟨i, hi, -⟩
    use i
  · rintro ⟨i, hi⟩
    use i, hi
    rfl

/-- Dependencies with kinds have imports. -/
theorem importsOf_eq_ok {ds : List Dependency} (h : ∀ d ∈ ds, d.HasKind) :
  ∃ is, importsOf ds = .ok is
  := by
  have hmap : ∃ is, ds.mapM Dependency.toImport = .ok is := by
    rw [exists_mapM_eq_ok_iff]
    intro d hd
    apply (Dependency.toImport_eq_ok_iff d).mpr (h d hd)
  obtain ⟨is, his⟩ := hmap
  use coreImport :: firstImports [coreImport.key] is
  rw [importsOf, his]
  rfl

/-! ### Names of services -/

theorem mem_namespaces_iff (services : List Service) (ns : String) :
  ns ∈ namespaces services ↔ ∃ s ∈ services, s.ns.upper = ns
  := by
  rw [namespaces, List.mem_eraseDups, List.mem_map]

theorem mem_servicesOf_iff (ns : String) (services : List Service) (s : Service) :
  s ∈ servicesOf ns services ↔ s ∈ services ∧ s.ns.upper = ns
  := by
  rw [servicesOf, List.mem_filter, beq_iff_eq]

/-- No service without a namespace is called like a namespace. -/
def LoneServicesApart (services : List Service) : Prop :=
  ∀ s ∈ services, ∀ t ∈ services, s.ns.upper = "" → t.ns.upper ≠ "" → s.name.upper ≠ t.ns.upper

/-- No two services of a namespace, or without one, have the same name. -/
def ServicesApart (services : List Service) : Prop :=
  services.Pairwise (fun s t => s.ns.upper = t.ns.upper → s.name.upper ≠ t.name.upper)

theorem checkLoneServices_eq_ok_iff (services : List Service) :
  checkLoneServices services = .ok () ↔ LoneServicesApart services
  := by
  have hfind : (servicesOf "" services).find? (fun s =>
        ((namespaces services).filter (fun ns => !ns.isEmpty)).contains s.name.upper) = none
      ↔ LoneServicesApart services := by
    rw [List.find?_eq_none]
    simp only [mem_servicesOf_iff, List.contains_iff_mem, List.mem_filter, mem_namespaces_iff,
      Bool.not_eq_true', String.isEmpty_eq_false_iff, LoneServicesApart]
    constructor
    · intro h s hs t ht hlone hspace heq
      apply h s ⟨hs, hlone⟩
      rw [heq]
      exact ⟨⟨t, ht, rfl⟩, hspace⟩
    · rintro h s ⟨hs, hlone⟩ ⟨⟨t, ht, heq⟩, hspace⟩
      rw [← heq] at hspace
      apply h s hs t ht hlone hspace heq.symm
  rw [checkLoneServices, ← hfind]
  generalize List.find? _ _ = found
  cases found <;> simp

/-- The services of a namespace have distinct names, whichever namespace it is. -/
theorem servicesApart_iff (services : List Service) :
  ServicesApart services ↔ ∀ ns, ((servicesOf ns services).map (fun s => s.name.upper)).Nodup
  := by
  simp only [ServicesApart, List.Nodup, List.pairwise_map, servicesOf, List.pairwise_filter,
    beq_iff_eq]
  constructor
  · intro h ns
    apply h.imp
    rintro s t hst hs ht
    apply hst (hs.trans ht.symm)
  · intro h
    induction services with
    | nil => exact List.Pairwise.nil
    | cons s services ih =>
        apply List.pairwise_cons.mpr
        constructor
        · intro t ht hns
          apply (List.pairwise_cons.mp (h s.ns.upper)).1 t ht rfl hns.symm
        · apply ih
          intro ns
          apply (List.pairwise_cons.mp (h ns)).2

theorem checkServiceNames_eq_ok_iff (services : List Service) :
  checkServiceNames services = .ok () ↔ LoneServicesApart services ∧ ServicesApart services
  := by
  have hgroups : (namespaces services).forM (checkNamespace services) = .ok ()
      ↔ ServicesApart services := by
    simp only [forM_eq_ok_iff, checkNamespace, requireDistinct_eq_ok_iff, servicesApart_iff]
    constructor
    · intro h ns
      by_cases hns : ns ∈ namespaces services
      · apply h ns hns
      · have hempty : servicesOf ns services = [] := by
          apply List.eq_nil_iff_forall_not_mem.mpr
          intro s hs
          obtain ⟨hs, heq⟩ := (mem_servicesOf_iff ns services s).mp hs
          apply hns ((mem_namespaces_iff services ns).mpr ⟨s, hs, heq⟩)
        rw [hempty]
        exact List.nodup_nil
    · intro h ns _
      apply h ns
  rw [checkServiceNames, then_eq_ok_iff, checkLoneServices_eq_ok_iff, hgroups]

/-! ### Names of methods -/

/-- No two methods of a service have the same name, in any of the spellings. -/
structure Service.MethodsApart (s : Service) : Prop where
  base : (s.methods.map (fun m => m.name.base)).Nodup
  upper : (s.methods.map (fun m => m.name.upper)).Nodup
  lower : (s.methods.map (fun m => m.name.lower)).Nodup

theorem checkMethodNames_eq_ok_iff (s : Service) :
  checkMethodNames s = .ok () ↔ s.MethodsApart
  := by
  simp only [checkMethodNames, forM_eq_ok_iff, checkSpelling, requireDistinct_eq_ok_iff,
    List.forall_mem_cons, List.not_mem_nil, Name.spelled]
  constructor
  · rintro ⟨hbase, hupper, hlower, -⟩
    exact ⟨hbase, hupper, hlower⟩
  · rintro ⟨hbase, hupper, hlower⟩
    exact ⟨hbase, hupper, hlower, nofun⟩

/-! ### The whole request -/

/-- The kinds of imports of a request exist, and its services, namespaces and methods are told
apart by their names. -/
structure Request.Acceptable (r : Request) : Prop where
  kinds : ∀ d ∈ r.dependencies, d.HasKind
  wireNames : (r.services.map Service.wireName).Nodup
  loneServices : LoneServicesApart r.services
  services : ServicesApart r.services
  methods : ∀ s ∈ r.services, s.MethodsApart

/-- Exactly the acceptable requests are accepted. -/
theorem Request.check_eq_ok_iff (r : Request) :
  r.check = .ok () ↔ r.Acceptable
  := by
  simp only [Request.check, then_eq_ok_iff, checkDependencies_eq_ok_iff, checkWireNames,
    requireDistinct_eq_ok_iff, checkServiceNames_eq_ok_iff, forM_eq_ok_iff,
    checkMethodNames_eq_ok_iff]
  constructor
  · rintro ⟨hkinds, hwire, ⟨hlone, hservices⟩, hmethods⟩
    exact ⟨hkinds, hwire, hlone, hservices, hmethods⟩
  · rintro ⟨hkinds, hwire, hlone, hservices, hmethods⟩
    exact ⟨hkinds, hwire, ⟨hlone, hservices⟩, hmethods⟩

/-- An accepted request has a file, whose blocks are the sections of the request. -/
theorem Request.file_eq_ok {r : Request} (c : Configuration) (h : r.check = .ok ()) :
  ∃ f, r.file c = .ok f ∧ f.contents.blocks = sections c.style c.sides r
  := by
  obtain ⟨is, his⟩ := importsOf_eq_ok ((check_eq_ok_iff r).mp h).kinds
  rw [Request.file, h, his]
  exact ⟨_, rfl, rfl⟩

/-! ### A small request -/

/-- A request with a service in a namespace and one without, used as an example. -/
def Request.greetings : Request where
  fileName := "greetings.proto"
  services := [
    { name := ⟨"Greeter", "Greeter", "greeter"⟩
      ns := ⟨"hello.world", "Hello_World", "hello_World"⟩
      methods := [
        { name := ⟨"say_hello", "SayHello", "sayHello"⟩
          inputType := "Hello_World_HelloRequest"
          outputType := "Hello_World_HelloReply" },
        { name := ⟨"Chat", "Chat", "chat"⟩
          inputStreaming := true
          outputStreaming := true
          inputType := "Hello_World_Line"
          outputType := "Hello_World_Line" }] },
    { name := ⟨"Echo", "Echo", "echo"⟩
      methods := [
        { name := ⟨"Ping", "Ping", "ping"⟩
          outputStreaming := true
          inputType := "Packet"
          outputType := "Packet" }] }]

theorem Request.check_greetings :
  greetings.check = .ok ()
  := rfl

end SwiftStubs
