import CallGuard.Advice.Dispatch
import CallGuard.Proofs.Advice.Acceptance
import CallGuard.Proofs.Advice.Resolution

/-!
# What a method is invoked with

A registration compares the parameters of a method with the kinds that it maps. A fault may be of
any kind below one of them, and then the same parameter accepts it.

* `Binding.accepts_of_resolve?` : a method with parameters that is found for a kind accepts it;
* `Arguments.fill_append` : the first parameter that accepts a fault gets it, and no other one;
* `Binding.bind_first_accepting` : a method with parameters always has its argument.
-/

namespace CallGuard

namespace Arguments

variable {accepts : Kind → Bool} {f : Fault}

/-- The slots of parameters of which one is the first to accept. -/
theorem fill_append {before after : List Kind} {p : Kind} (hq : ∀ q ∈ before, accepts q = false)
    (hp : accepts p = true) : fill accepts f (before ++ p :: after) =
      List.replicate before.length none ++ some f :: List.replicate after.length none := by
  induction before with
  | nil => simp [fill, hp, List.map_const']
  | cons q before ih =>
    rw [List.cons_append, fill, if_neg (by simp [hq q List.mem_cons_self]),
      ih fun q hmem => hq q (List.mem_cons_of_mem _ hmem)]
    rfl

theorem error?_of_slots {args : Arguments} {n : Nat} {rest : List (Option Fault)}
    (hs : args.slots = List.replicate n none ++ some f :: rest) : args.error? = some f := by
  rw [error?, hs, List.findSome?_append, List.findSome?_replicate_of_isNone rfl,
    Option.none_or]
  rfl

theorem requireError_of_error? {args : Arguments} (hf : args.error? = some f) :
    args.requireError = pure (.ok f) := by
  simp only [requireError, hf]

end Arguments

/-- The method asks for its argument first, and goes on with it or with the fault that tells that
there is none. -/
def Method.Demands (m : Method)
    (goOn : Arguments → Except Fault Fault → Recorded (Outcome (Option Answer))) : Prop :=
  ∀ args, m.run args = args.requireError >>= goOn args

namespace Binding

open Registry

variable {h : Hierarchy} {advices : List Advice} {r : Registry} {b : Binding} {k t : Kind}

theorem Usable.accepts (hu : b.Usable h) (hp : b.method.params ≠ []) (hk : k ∈ b.mapped) :
    b.Accepts h k := by
  rcases hl : b.method.listed with _ | ⟨l, ls⟩
  · rw [mapped, hl] at hk
    exact ⟨k, List.mem_of_mem_take hk, Hierarchy.isAssignable_iff.2 ⟨0, .refl k⟩⟩
  · rw [mapped, hl] at hk
    exact hu.2 hp k (hl ▸ hk)

theorem Accepts.of_isAssignable (ha : b.Accepts h k) (hk : h.isAssignable k t = true) :
    b.Accepts h t := by
  obtain ⟨p, hp, hpk⟩ := ha
  obtain ⟨m, hm⟩ := Hierarchy.isAssignable_iff.1 hpk
  obtain ⟨n, hn⟩ := Hierarchy.isAssignable_iff.1 hk
  exact ⟨p, hp, Hierarchy.isAssignable_iff.2 ⟨n + m, hn.append hm⟩⟩

/-- A method that is found for a kind was registered, and it maps an ancestor of the kind. -/
theorem mapped_of_resolve? (hr : (empty h).addAll advices = .ok r) (hb : r.resolve? t = some b) :
    b ∈ methods advices ∧ ∃ k ∈ b.mapped, h.isAssignable k t = true := by
  obtain ⟨k, n, hk⟩ := resolve?_eq_some_iff.1 hb
  have hfirst : firstToMap? (methods advices) k = some b :=
    ((bound_addAll hr).2 k).symm.trans (get?_eq_some_iff.2 hk.mem)
  obtain ⟨hmem, hmapped⟩ := firstToMap?_mem hfirst
  have hd := hk.distance_eq
  rw [(bindings_addAll hr).1] at hd
  exact ⟨hmem, k, hmapped, Option.isSome_iff_exists.2 ⟨n, hd⟩⟩

/-- No method was registered that is not usable. -/
theorem accepts_of_resolve? (hr : (empty h).addAll advices = .ok r) (hb : r.resolve? t = some b)
    (hp : b.method.params ≠ []) : b.Accepts h t := by
  obtain ⟨hmem, k, hmapped, hk⟩ := mapped_of_resolve? hr hb
  have hu : b.Usable h := (clear_iff.1 (addAll_ok_iff.1 ⟨r, hr⟩)).1 b hmem
  exact (hu.accepts hp hmapped).of_isAssignable hk

theorem Accepts.exists_first (ha : b.Accepts h t) : ∃ before p after,
    b.method.params = before ++ p :: after ∧ (∀ q ∈ before, h.isAssignable q t = false) ∧
      h.isAssignable p t = true := by
  obtain ⟨p, hp⟩ : ∃ p, b.method.params.find? (h.isAssignable · t) = some p := by
    rw [← Option.isSome_iff_exists, List.find?_isSome]
    exact ha
  obtain ⟨hpt, before, after, heq, hbefore⟩ := List.find?_eq_some_iff_append.1 hp
  exact ⟨before, p, after, heq, fun q hq => by simpa using hbefore q hq, hpt⟩

/-- **A method with parameters has its argument.** A method that is found for a fault in a registry
that comes of registering advices is invoked with one slot for each parameter. The first parameter
that accepts the kind of the fault gets the fault and the others get nothing. What the method asks
for is that fault, and so a method that demands its argument is dispatched to go on with the
fault, never without one. -/
theorem bind_first_accepting (hr : (empty h).addAll advices = .ok r) {f : Fault}
    (hb : r.resolve? f.kind = some b) (hp : b.method.params ≠ []) :
    (∃ before p after, b.method.params = before ++ p :: after ∧
      (∀ q ∈ before, h.isAssignable q f.kind = false) ∧ h.isAssignable p f.kind = true ∧
      (b.bind h f).slots =
        List.replicate before.length none ++ some f :: List.replicate after.length none) ∧
    (b.bind h f).size = b.method.params.length ∧
    (b.bind h f).error? = some f ∧
    (b.bind h f).requireError = pure (.ok f) ∧
    ∀ observer text goOn, b.method.Demands goOn →
      Dispatcher.invoke ⟨r, observer, text⟩ f = (do
        Recorded.log .trace "Invoking exception handler method"
          [("error_type", .text f.kind.name), ("method", .text b.qualifiedName)]
        goOn (b.bind h f) (.ok f)) := by
  obtain ⟨before, p, after, heq, hbefore, hpf⟩ := (accepts_of_resolve? hr hb hp).exists_first
  have hslots : (b.bind h f).slots =
      List.replicate before.length none ++ some f :: List.replicate after.length none := by
    rw [bind, heq]
    exact Arguments.fill_append hbefore hpf
  have herror : (b.bind h f).error? = some f := Arguments.error?_of_slots hslots
  have hrequire := Arguments.requireError_of_error? herror
  refine ⟨⟨before, p, after, heq, hbefore, hpf, hslots⟩, ?_, herror, hrequire, ?_⟩
  · simp [Arguments.size, hslots, heq]
  · intro observer text goOn hrun
    simp only [Dispatcher.invoke, hb, (bindings_addAll hr).1, hrun (b.bind h f), hrequire,
      pure_bind]

/-- An advice with a method for input errors that demands its argument, the second of two. -/
def demanding : Advice where
  type := 0
  name := "Demanding"
  methods := [⟨"onIo", [⟨"Io"⟩], [⟨"Config"⟩, ⟨"Io"⟩], fun args => do
    match ← args.requireError with
    | .ok f => return .done (some (.fault f))
    | .error e => return .failed e⟩]

/-- A lock that times out is an input error. -/
theorem bind_first_accepting_below : ∃ h r b f,
    Hierarchy.build [(⟨"LockTimeout"⟩, [⟨"Io"⟩])] = .ok h ∧ (empty h).addAll [demanding] = .ok r ∧
    f.kind = ⟨"LockTimeout"⟩ ∧ r.resolve? f.kind = some b ∧ (b.bind h f).size = 2 ∧
    (b.bind h f).error? = some f := by
  obtain ⟨h, hbuild, hio, hlock⟩ : ∃ h, Hierarchy.build [(⟨"LockTimeout"⟩, [⟨"Io"⟩])] = .ok h ∧
      h.isAssignable ⟨"Io"⟩ ⟨"Io"⟩ = true ∧ h.distance ⟨"Io"⟩ ⟨"LockTimeout"⟩ = some 1 :=
    ⟨_, Hierarchy.validate_of_isOk (by decide +kernel), by decide +kernel, by decide +kernel⟩
  obtain ⟨b, hm, hmapped, hparams, hlisted⟩ : ∃ b, methods [demanding] = [b] ∧
      b.mapped = [⟨"Io"⟩] ∧ b.method.params = [⟨"Config"⟩, ⟨"Io"⟩] ∧ b.method.listed = [⟨"Io"⟩] :=
    ⟨_, rfl, rfl, rfl, rfl⟩
  have hclear : Clear h (methods [demanding]) := by
    rw [clear_iff, hm]
    simp [Usable, Accepts, hlisted, hparams, hio]
  obtain ⟨r, hr⟩ := addAll_ok_iff.2 hclear
  obtain ⟨f, hf⟩ : ∃ f : Fault, f.kind = ⟨"LockTimeout"⟩ := ⟨⟨0, _, none, none, []⟩, rfl⟩
  have hb : r.resolve? f.kind = some b := by
    have hget : r.get? ⟨"Io"⟩ = some b := by simp [(bound_addAll hr).2, firstToMap?, hm, hmapped]
    cases hres : r.resolve? f.kind with
    | none =>
      have hshort := Hierarchy.distance_eq_some_iff.1 hlock
      rw [← hf, ← (bindings_addAll hr).1] at hshort
      exact absurd hshort.1 (resolve?_eq_none_iff.1 hres _ (get?_eq_some_iff.1 hget) 1)
    | some c =>
      -- there is only one method
      have hc := (mapped_of_resolve? hr hres).1
      rw [hm, List.mem_singleton] at hc
      rw [hc]
  obtain ⟨-, hsize, herror, -⟩ := bind_first_accepting hr hb (by simp [hparams])
  exact ⟨h, r, b, f, hbuild, hr, hf, hb, hsize.trans (by rw [hparams]; rfl), herror⟩

end Binding

end CallGuard
