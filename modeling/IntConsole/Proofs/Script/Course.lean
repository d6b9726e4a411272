import IntConsole.Proofs.Script.Route

/-!
This module contains the course that the run of a script takes: which calls are made, with which
arguments, what they do and where the run ends. The main statement is that each run takes its
course, whichever way its calls go.
-/

namespace IntConsole

namespace Script

variable {σ : Type}

namespace Invocation

def request (i : Invocation) : Builtin × List Int64 :=
  (i.builtin, i.args)

def Succeeds (i : Invocation) : Prop :=
  ∃ read, i.record.result = .ok read

end Invocation

def LastRead (made : List Invocation) (v : Int64) : Prop :=
  ∃ before i behind, made = before ++ i :: behind ∧ i.builtin = .readInt
    ∧ i.record.result = .ok (some v) ∧ ∀ j ∈ behind, j.builtin ≠ .readInt

/--
The arguments that a call gets behind other invocations: none for a builtin without parameters, and
else the value that is written in the call or, if there is none, the one that was read last.
-/
def Call.Gets (call : Call) (made : List Invocation) (args : List Int64) : Prop :=
  match call.builtin, call.value with
  | .readInt, _ => args = []
  | .println, _ => args = []
  | _, some v => args = [v]
  | _, none => ∃ v, LastRead made v ∧ args = [v]

/--
The call of the builtin `b` at place `k` needs a value, but none is written in it and there is no
read in front of it.
-/
def LacksValue (calls : List Call) (k : Nat) (b : Builtin) : Prop :=
  calls[k]? = some ⟨b, none⟩ ∧ (b = .printInt ∨ b = .printBool)
    ∧ ∀ call ∈ calls.take k, call.builtin ≠ .readInt

/--
How a run of calls ends that has made the given invocations: with the last call, at a call that
lacks its value and is not made, or behind a read that has failed. Everything else has succeeded.
-/
def Ends (calls : List Call) (made : List Invocation) : Option Failure → Prop
  | none => made.length = calls.length ∧ ∀ i ∈ made, i.Succeeds
  | some (.nothingRead b) => LacksValue calls made.length b ∧ ∀ i ∈ made, i.Succeeds
  | some (.call (.read e)) =>
    ∃ before i, made = before ++ [i] ∧ i.record.result = .error (.read e)
      ∧ ∀ j ∈ before, j.Succeeds
  | some _ => False

section

variable [Sink σ]

/--
On the way from the console `start` to the console `c`, the given calls have been made, one
invocation for each.
-/
structure Makes (route : Route σ) (start : Console σ) (calls : List Call) (made : List Invocation)
    (c : Console σ) : Prop where
  builtins_eq : made.map Invocation.builtin = calls.map Call.builtin
  length_args : ∀ i ∈ made, i.args.length = i.builtin.params.length
  gets : ∀ (k : Nat) (call : Call) (i : Invocation), calls[k]? = some call → made[k]? = some i →
    call.Gets (made.take k) i.args
  replay_eq : route.replay start (made.map Invocation.request)
    = (made.map Invocation.record, c)

structure Course (route : Route σ) (start : Console σ) (calls : List Call) (o : Outcome σ) :
    Prop where
  makes : Makes route start (calls.take o.invocations.length) o.invocations o.console
  ends : Ends calls o.invocations o.failure
  failure_eq_none_iff : o.failure = none
    ↔ o.invocations.length = calls.length ∧ ∀ i ∈ o.invocations, i.Succeeds

structure Progress (route : Route σ) (start : Console σ) (calls : List Call)
    (made : List Invocation) (lastRead : Option Int64) (c : Console σ) : Prop where
  makes : Makes route start calls made c
  succeeds : ∀ i ∈ made, i.Succeeds
  lastRead_of_some : ∀ v, lastRead = some v → LastRead made v
  ne_readInt_of_none : lastRead = none → ∀ i ∈ made, i.builtin ≠ .readInt

end

namespace LastRead

variable {made : List Invocation} {i : Invocation} {v : Int64}

theorem of_read (hi : i.builtin = .readInt) (hv : i.record.result = .ok (some v)) :
    LastRead (made ++ [i]) v :=
  ⟨made, i, [], rfl, hi, hv, by simp⟩

theorem concat (h : LastRead made v) (hi : i.builtin ≠ .readInt) : LastRead (made ++ [i]) v := by
  obtain ⟨before, j, behind, rfl, hj, hv, hbehind⟩ := h
  refine ⟨before, j, behind ++ [i], by simp, hj, hv, ?_⟩
  intro k hk
  rcases List.mem_append.1 hk with hk | hk
  . exact hbehind k hk
  . rw [List.mem_singleton.1 hk]
    exact hi

end LastRead

namespace Call

variable {call : Call} {lastRead : Option Int64}

theorem arguments?_eq_none_iff :
    call.arguments? lastRead = none
      ↔ (call.builtin = .printInt ∨ call.builtin = .printBool) ∧ call.value = none
        ∧ lastRead = none := by
  obtain ⟨b, value⟩ := call
  cases b <;> cases value <;> cases lastRead <;> simp [arguments?, Builtin.params]

theorem gets_of_arguments? {made : List Invocation} {args : List Int64}
    (h : call.arguments? lastRead = some args)
    (hlast : ∀ v, lastRead = some v → LastRead made v) : call.Gets made args := by
  obtain ⟨b, value⟩ := call
  have hvalue {v : Int64} (hv : (value <|> lastRead) = some v) :
      match value with
      | some w => [v] = [w]
      | none => ∃ w, LastRead made w ∧ [v] = [w] := by
    cases value with
    | some w =>
      cases hv
      rfl
    | none => exact ⟨v, hlast v hv, rfl⟩
  cases b with
  | readInt =>
    cases h
    rfl
  | println =>
    cases h
    rfl
  | printBool =>
    obtain ⟨v, hv, rfl⟩ := Option.map_eq_some_iff.1 h
    have := hvalue hv
    cases value <;> exact this
  | printInt =>
    obtain ⟨v, hv, rfl⟩ := Option.map_eq_some_iff.1 h
    have := hvalue hv
    cases value <;> exact this

end Call

section

variable [Sink σ] {route : Route σ} {start c : Console σ} {calls : List Call}
  {made : List Invocation}

namespace Makes

theorem length_eq (h : Makes route start calls made c) : made.length = calls.length := by
  have := congrArg List.length h.builtins_eq
  simpa using this

theorem nil (route : Route σ) (start : Console σ) : Makes route start [] [] start where
  builtins_eq := rfl
  length_args := by simp
  gets := by simp
  replay_eq := rfl

theorem concat (h : Makes route start calls made c) {call : Call} {args : List Int64}
    (hgets : call.Gets made args) (hlength : args.length = call.builtin.params.length) :
    let seen := c.observe fun c => route c call.builtin args
    Makes route start (calls ++ [call]) (made ++ [⟨call.builtin, args, seen.1⟩]) seen.2 := by
  intro seen
  constructor
  . rw [List.map_append, List.map_append, h.builtins_eq]
    rfl
  . intro i hi
    rcases List.mem_append.1 hi with hi | hi
    . exact h.length_args i hi
    . rw [List.mem_singleton.1 hi]
      exact hlength
  . intro k other i hother hi
    rcases Nat.lt_trichotomy k made.length with hk | rfl | hk
    . -- An earlier call, behind which nothing has changed.
      rw [List.getElem?_append_left (h.length_eq ▸ hk)] at hother
      rw [List.getElem?_append_left hk] at hi
      rw [List.take_append_of_le_length (Nat.le_of_lt hk)]
      exact h.gets k other i hother hi
    . rw [h.length_eq, List.getElem?_concat_length] at hother
      rw [List.getElem?_concat_length] at hi
      cases hother
      cases hi
      rw [List.take_left]
      exact hgets
    . rw [List.getElem?_eq_none (by simp; omega)] at hi
      cases hi
  . have hreplay := route.replay_concat start (made.map Invocation.request) call.builtin args
    rw [h.replay_eq] at hreplay
    rw [List.map_append, List.map_append]
    exact hreplay

end Makes

theorem Ends.eq_none_iff {failure : Option Failure} (h : Ends calls made failure) :
    failure = none ↔ made.length = calls.length ∧ ∀ i ∈ made, i.Succeeds := by
  constructor
  . rintro rfl
    exact h
  . rintro ⟨hlength, hsucceeds⟩
    unfold Ends at h
    split at h
    . rfl
    . -- There is no call behind the last one that could lack a value.
      have hcall := h.1.1
      rw [hlength, List.getElem?_eq_none (Nat.le_refl _)] at hcall
      cases hcall
    . obtain ⟨before, i, rfl, hfails, -⟩ := h
      obtain ⟨read, hread⟩ := hsucceeds i (by simp)
      rw [hfails] at hread
      cases hread
    . cases h

theorem Progress.nil (route : Route σ) (start : Console σ) :
    Progress route start [] [] none start where
  makes := .nil route start
  succeeds := by simp
  lastRead_of_some := by simp
  ne_readInt_of_none := by simp

namespace Route.Regular

variable (hroute : route.Regular) {args : List Int64}
include hroute

theorem result_observe {b : Builtin} (h : args.length = b.params.length) (c : Console σ) :
    (b = .readInt ∧ ((∃ v, (c.observe fun c => route c b args).1.result = .ok (some v))
        ∨ ∃ e, (c.observe fun c => route c b args).1.result = .error (.read e)))
      ∨ b ≠ .readInt ∧ (c.observe fun c => route c b args).1.result = .ok none := by
  have hresult : (c.observe fun c => route c b args).1.result
      = (route { c with log := [] } b args).1 := rfl
  rw [hresult]
  by_cases hb : b = .readInt
  . subst hb
    obtain rfl := List.eq_nil_of_length_eq_zero h
    obtain ⟨r, hr⟩ := hroute.fst_readInt { c with log := [] }
    rw [hr]
    cases r with
    | ok v => exact .inl ⟨rfl, .inl ⟨v, rfl⟩⟩
    | error e => exact .inl ⟨rfl, .inr ⟨e, rfl⟩⟩
  . exact .inr ⟨hb, hroute.fst_print _ b args hb h⟩

end Route.Regular

namespace Progress

variable {lastRead : Option Int64} (h : Progress route start calls made lastRead c)
include h

theorem concat (hroute : route.Regular) {call : Call} {args : List Int64}
    (hgets : call.Gets made args) (hlength : args.length = call.builtin.params.length)
    {read : Option Int64}
    (hread : (c.observe fun c => route c call.builtin args).1.result = .ok read) :
    let seen := c.observe fun c => route c call.builtin args
    Progress route start (calls ++ [call]) (made ++ [⟨call.builtin, args, seen.1⟩])
      (read <|> lastRead) seen.2 := by
  intro seen
  have hsucceeds : ∀ i ∈ made ++ [⟨call.builtin, args, seen.1⟩], i.Succeeds := by
    intro i hi
    rcases List.mem_append.1 hi with hi | hi
    . exact h.succeeds i hi
    . rw [List.mem_singleton.1 hi]
      exact ⟨read, hread⟩
  obtain ⟨hb, ⟨v, hv⟩ | ⟨e, he⟩⟩ | ⟨hb, hnone⟩ := hroute.result_observe hlength c
  . -- A read takes the place of all earlier ones.
    obtain rfl : read = some v := by
      rw [hread] at hv
      cases hv
      rfl
    refine ⟨h.makes.concat hgets hlength, hsucceeds, ?_, ?_⟩
    . intro w hw
      cases hw
      exact .of_read hb hread
    . intro hnone
      cases hnone
  . rw [hread] at he
    cases he
  . -- A print leaves the last read as it is.
    obtain rfl : read = none := by
      rw [hread] at hnone
      cases hnone
      rfl
    refine ⟨h.makes.concat hgets hlength, hsucceeds, ?_, ?_⟩
    . intro w hw
      exact (h.lastRead_of_some w hw).concat hb
    . intro hlast i hi
      rcases List.mem_append.1 hi with hi | hi
      . exact h.ne_readInt_of_none hlast i hi
      . rw [List.mem_singleton.1 hi]
        exact hb

theorem course_of_nil : Course route start calls ⟨made, none, c⟩ := by
  have hends : Ends calls made none := ⟨h.makes.length_eq, h.succeeds⟩
  refine ⟨?_, hends, hends.eq_none_iff⟩
  rw [h.makes.length_eq, List.take_length]
  exact h.makes

theorem course_of_none {call : Call} (hargs : call.arguments? lastRead = none) (rest : List Call) :
    Course route start (calls ++ call :: rest) ⟨made, some (.nothingRead call.builtin), c⟩ := by
  obtain ⟨hb, hvalue, hlast⟩ := Call.arguments?_eq_none_iff.1 hargs
  have htake : (calls ++ call :: rest).take made.length = calls := by
    rw [h.makes.length_eq, List.take_left]
  have hlacks : LacksValue (calls ++ call :: rest) made.length call.builtin := by
    refine ⟨?_, hb, ?_⟩
    . rw [h.makes.length_eq, List.getElem?_append_right (Nat.le_refl _), Nat.sub_self,
        List.getElem?_cons_zero, ← hvalue]
    . rw [htake]
      intro other hother
      -- The builtins of the calls are those of the invocations, none of which is a read.
      have hmem : other.builtin ∈ made.map Invocation.builtin := by
        rw [h.makes.builtins_eq]
        exact List.mem_map_of_mem hother
      obtain ⟨i, hi, heq⟩ := List.mem_map.1 hmem
      rw [← heq]
      exact h.ne_readInt_of_none hlast i hi
  have hends : Ends (calls ++ call :: rest) made (some (.nothingRead call.builtin)) :=
    ⟨hlacks, h.succeeds⟩
  refine ⟨?_, hends, hends.eq_none_iff⟩
  rw [htake]
  exact h.makes

theorem course_of_error {call : Call} {args : List Int64} (hgets : call.Gets made args)
    (hlength : args.length = call.builtin.params.length) {e : ReadFailure}
    (he : (c.observe fun c => route c call.builtin args).1.result = .error (.read e))
    (rest : List Call) :
    let seen := c.observe fun c => route c call.builtin args
    Course route start (calls ++ call :: rest)
      ⟨made ++ [⟨call.builtin, args, seen.1⟩], some (.call (.read e)), seen.2⟩ := by
  intro seen
  have hends : Ends (calls ++ call :: rest) (made ++ [⟨call.builtin, args, seen.1⟩])
      (some (.call (.read e))) :=
    ⟨made, _, rfl, he, h.succeeds⟩
  refine ⟨?_, hends, hends.eq_none_iff⟩
  have htake : (calls ++ call :: rest).take (made.length + 1) = calls ++ [call] := by
    rw [h.makes.length_eq, List.take_append, List.take_of_length_le (Nat.le_add_right _ _),
      Nat.add_sub_cancel_left, List.take_one]
    rfl
  rw [List.length_append, List.length_singleton, htake]
  exact h.makes.concat hgets hlength

end Progress

theorem course_runFrom (hroute : route.Regular) {lastRead : Option Int64}
    (h : Progress route start calls made lastRead c) (rest : List Call) :
    Course route start (calls ++ rest) {
      invocations := made ++ (runFrom route lastRead c rest).invocations
      failure := (runFrom route lastRead c rest).failure
      console := (runFrom route lastRead c rest).console
    } := by
  -- The induction is on the calls that are left, with what is known of those made so far.
  induction rest generalizing calls made lastRead c with
  | nil =>
    rw [runFrom, List.append_nil, List.append_nil]
    exact h.course_of_nil
  | cons call rest ih =>
    cases hargs : call.arguments? lastRead with
    | none =>
      rw [runFrom_cons_of_none hargs, List.append_nil]
      exact h.course_of_none hargs rest
    | some args =>
      have hgets := Call.gets_of_arguments? hargs h.lastRead_of_some
      have hlength := Call.length_of_arguments? hargs
      cases hresult : (c.observe fun c => route c call.builtin args).1.result with
      | error e =>
        rw [runFrom_cons_of_error hargs hresult]
        obtain ⟨-, ⟨v, hv⟩ | ⟨f, hf⟩⟩ | ⟨-, hnone⟩ := hroute.result_observe hlength c
        . rw [hresult] at hv
          cases hv
        . obtain rfl : e = .read f := by
            rw [hresult] at hf
            cases hf
            rfl
          exact h.course_of_error hgets hlength hf rest
        . rw [hresult] at hnone
          cases hnone
      | ok read =>
        have hrest := ih (h.concat hroute hgets hlength hresult)
        rw [runFrom_cons_of_ok hargs hresult]
        rw [List.append_assoc, List.append_assoc] at hrest
        exact hrest

end

/--
The run of a script takes its course, be it that its calls go directly to a console or through the
entry points. In the first case its invocations are the steps of a session.
-/
theorem run_takes_course [Sink σ] (cfg : Config) (c : Console σ) (calls : List Call) :
    Course (.direct cfg) c calls (run (.direct cfg) c calls)
      ∧ Course .exported c calls (run .exported c calls)
      ∧ Session.run cfg c
            ((run (.direct cfg) c calls).invocations.map fun i => .call i.builtin i.args)
          = ((run (.direct cfg) c calls).invocations.map Invocation.record,
            (run (.direct cfg) c calls).console) := by
  have hdirect := course_runFrom (Route.regular_direct cfg) (.nil _ c) calls
  have hexported := course_runFrom Route.regular_exported (.nil _ c) calls
  refine ⟨hdirect, hexported, ?_⟩
  have hreplay := hdirect.makes.replay_eq
  rw [Route.replay_direct, List.map_map] at hreplay
  exact hreplay

end Script

end IntConsole
