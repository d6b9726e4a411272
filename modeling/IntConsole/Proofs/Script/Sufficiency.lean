import IntConsole.Proofs.Script.Course

/-!
This module contains what a script comes to when no read can fail. The main statement is that it is
the text of the script alone which decides how far the script runs: to its end when each print
without a value of its own has a read in front of it, and else up to the first print that has none.
-/

namespace IntConsole

variable {σ : Type}

theorem Effect.answer_ofCall_of_fallback {cfg : Config} {v : Int64}
    (hpolicy : cfg.onReadFailure = .fallback v) (s : Input) {b : Builtin} {args : List Int64}
    (h : args.length = b.params.length) :
    ∃ read, ((ofCall cfg b args).answer s).1 = .ok read := by
  by_cases hb : b = .readInt
  . subst hb
    obtain rfl := List.eq_nil_of_length_eq_zero h
    unfold ofCall answer
    dsimp only
    rw [hpolicy]
    cases s.readInt.1 with
    | ok w => exact ⟨some w, rfl⟩
    | error e => exact ⟨some v, rfl⟩
  . exact ⟨none, answer_ofCall_of_ne cfg s hb h⟩

namespace Script

def Route.Lenient (route : Route σ) : Prop :=
  ∀ c b args, args.length = b.params.length → ∃ read, (route c b args).1 = .ok read

/--
Every print without a value of its own has a read in front of it.
-/
def Supplied (calls : List Call) : Prop :=
  ∀ (k : Nat) (b : Builtin), calls[k]? = some ⟨b, none⟩ → b = .printInt ∨ b = .printBool →
    ∃ call ∈ calls.take k, call.builtin = .readInt

theorem supplied_iff (calls : List Call) :
    Supplied calls ↔ ∀ k b, ¬LacksValue calls k b := by
  constructor
  . rintro h k b ⟨hcall, hb, hreads⟩
    obtain ⟨call, hmem, hread⟩ := h k b hcall hb
    exact hreads call hmem hread
  . intro h k b hcall hb
    apply Classical.byContradiction
    intro hreads
    exact h k b ⟨hcall, hb, fun call hmem hread => hreads ⟨call, hmem, hread⟩⟩

variable [Sink σ]

namespace Route

theorem lenient_direct {cfg : Config} {v : Int64} (h : cfg.onReadFailure = .fallback v) :
    (direct (σ := σ) cfg).Lenient := by
  intro c b args hargs
  rw [fst_direct]
  exact Effect.answer_ofCall_of_fallback h c.input hargs

theorem lenient_exported : (exported (σ := σ)).Lenient := by
  intro c b args hargs
  rw [fst_exported c hargs]
  exact Effect.answer_ofCall_of_fallback rfl c.input hargs

theorem Lenient.replay {route : Route σ} (hroute : route.Lenient) (c : Console σ)
    {requests : List (Builtin × List Int64)}
    (h : ∀ request ∈ requests, request.2.length = request.1.params.length) :
    ∀ r ∈ (route.replay c requests).1, ∃ read, r.result = .ok read := by
  induction requests generalizing c with
  | nil => simp [Route.replay]
  | cons request requests ih =>
    obtain ⟨b, args⟩ := request
    intro r hr
    rw [replay_cons] at hr
    rcases List.mem_cons.1 hr with rfl | hr
    . exact hroute { c with log := [] } b args (h (b, args) List.mem_cons_self)
    . exact ih _ (fun request hrequest => h request (List.mem_cons_of_mem _ hrequest)) r hr

end Route

namespace Makes

variable {route : Route σ} {start c : Console σ} {calls : List Call} {made : List Invocation}

theorem succeeds (h : Makes route start calls made c) (hroute : route.Lenient) :
    ∀ i ∈ made, i.Succeeds := by
  intro i hi
  have hrequests : ∀ request ∈ made.map Invocation.request,
      request.2.length = request.1.params.length := by
    intro request hrequest
    obtain ⟨j, hj, rfl⟩ := List.mem_map.1 hrequest
    exact h.length_args j hj
  have hreplay := hroute.replay start hrequests
  rw [h.replay_eq] at hreplay
  exact hreplay i.record (List.mem_map_of_mem hi)

theorem exists_call_of_mem_take (h : Makes route start calls made c) {k : Nat} {i : Invocation}
    (hi : i ∈ made.take k) : ∃ call ∈ calls.take k, call.builtin = i.builtin := by
  have hbuiltins : (made.take k).map Invocation.builtin = (calls.take k).map Call.builtin := by
    rw [List.map_take, List.map_take, h.builtins_eq]
  have hmem : i.builtin ∈ (calls.take k).map Call.builtin := by
    rw [← hbuiltins]
    exact List.mem_map_of_mem hi
  exact List.mem_map.1 hmem

theorem not_lacksValue {n : Nat} (h : Makes route start (calls.take n) made c) {k : Nat}
    (hk : k < made.length) (b : Builtin) : ¬LacksValue calls k b := by
  rintro ⟨hcall, hb, hreads⟩
  have hkn : k < n := by
    have hlength := h.length_eq
    rw [List.length_take] at hlength
    omega
  have htake : (calls.take n)[k]? = some ⟨b, none⟩ := by
    rw [List.getElem?_take_of_lt hkn, hcall]
  have hgets := h.gets k ⟨b, none⟩ made[k] htake (List.getElem?_eq_getElem hk)
  -- Its argument is the value of a read, and so there is a read in front of it.
  have hlast : ∃ v, LastRead (made.take k) v := by
    rcases hb with rfl | rfl
    . obtain ⟨v, hv, -⟩ := hgets
      exact ⟨v, hv⟩
    . obtain ⟨v, hv, -⟩ := hgets
      exact ⟨v, hv⟩
  obtain ⟨v, before, i, behind, heq, hi, -, -⟩ := hlast
  obtain ⟨call, hmem, hread⟩ := h.exists_call_of_mem_take (k := k) (i := i) (by simp [heq])
  rw [List.take_take, Nat.min_eq_left (Nat.le_of_lt hkn)] at hmem
  exact hreads call hmem (hread.trans hi)

end Makes

structure MakesFirst (route : Route σ) (start : Console σ) (calls : List Call) (n : Nat)
    (o : Outcome σ) : Prop where
  length_eq : o.invocations.length = n
  makes : Makes route start (calls.take n) o.invocations o.console
  succeeds : ∀ i ∈ o.invocations, i.Succeeds

/--
Whether the run comes to its end, and else where and why it stops, is decided by the calls.
-/
structure DecidedByText (route : Route σ) (start : Console σ) (calls : List Call) (o : Outcome σ) :
    Prop where
  completes_iff : o.failure = none ∧ MakesFirst route start calls calls.length o ↔ Supplied calls
  stops : ¬Supplied calls → ∃ k b, LacksValue calls k b ∧ (∀ j < k, ∀ b', ¬LacksValue calls j b')
    ∧ o.failure = some (.nothingRead b) ∧ MakesFirst route start calls k o

theorem Course.decidedByText {route : Route σ} {start : Console σ} {calls : List Call}
    {o : Outcome σ} (h : Course route start calls o) (hroute : route.Lenient) :
    DecidedByText route start calls o := by
  have hsucceeds := h.makes.succeeds hroute
  have hmakes : MakesFirst route start calls o.invocations.length o := ⟨rfl, h.makes, hsucceeds⟩
  have hfront : ∀ k < o.invocations.length, ∀ b, ¬LacksValue calls k b :=
    fun k hk b => h.makes.not_lacksValue hk b
  have hends := h.ends
  cases hfailure : o.failure with
  | none =>
    rw [hfailure] at hends
    have hsupplied : Supplied calls := by
      rw [supplied_iff]
      intro k b hlacks
      have hk : k < calls.length := (List.getElem?_eq_some_iff.1 hlacks.1).1
      exact hfront k (hends.1 ▸ hk) b hlacks
    rw [hends.1] at hmakes
    exact ⟨⟨fun _ => hsupplied, fun _ => ⟨hfailure, hmakes⟩⟩, fun hnot => absurd hsupplied hnot⟩
  | some e =>
    rw [hfailure] at hends
    unfold Ends at hends
    split at hends
    . next hnone => cases hnone
    . next b heq =>
      cases heq
      have hlacks := hends.1
      have hnot : ¬Supplied calls := fun hsupplied => (supplied_iff calls).1 hsupplied _ b hlacks
      refine ⟨⟨?_, fun hsupplied => absurd hsupplied hnot⟩, fun _ => ⟨_, b, hlacks, hfront, ?_⟩⟩
      . rintro ⟨hnone, -⟩
        rw [hfailure] at hnone
        cases hnone
      . exact ⟨hfailure, hmakes⟩
    . -- The last call would have failed.
      obtain ⟨before, i, heq, hfails, -⟩ := hends
      obtain ⟨read, hread⟩ := hsucceeds i (by simp [heq])
      rw [hfails] at hread
      cases hread
    . exact hends.elim

/--
Where failures of reads are replaced by a value, neither the input nor the output nor the settings
take part in how far a script runs. The same is true of scripts that run through the entry points.
-/
theorem run_decided_by_text (prompt : String) (flush : Bool) (v : Int64) (c : Console σ)
    (calls : List Call) :
    let route : Route σ := .direct ⟨prompt, flush, .fallback v⟩
    DecidedByText route c calls (run route c calls)
      ∧ DecidedByText .exported c calls (run .exported c calls) := by
  intro route
  have hdirect := course_runFrom (Route.regular_direct ⟨prompt, flush, .fallback v⟩) (.nil _ c) calls
  have hexported := course_runFrom Route.regular_exported (.nil _ c) calls
  exact ⟨hdirect.decidedByText (Route.lenient_direct rfl),
    hexported.decidedByText Route.lenient_exported⟩

end Script

end IntConsole
