import IntConsole.Proofs.Session.Separation
import IntConsole.Proofs.Stream.Accounting

/-!
This module contains the account of what sessions print on an output that may run out of room and
whose flushes may come to fail. The main statement says of each step which bytes have been accepted
behind it, which failure it logs and whether it flushes.
-/

namespace IntConsole

def Record.failures (r : Record) : List Log.Entry :=
  r.log.filter fun e => e.level = .debug

namespace Effect

theorem print_eq_emit (cfg : Config) (o : Output) (e : Effect) :
    e.print cfg o = Sink.emit o (e.pieces cfg) (e.flushing cfg) := by
  cases e <;> rfl

theorem failures_record {cfg : Config} {c : Console} {e : Effect}
    (h : ∀ entry ∈ e.entries, entry.level = .trace) :
    (e.record cfg c).failures = (e.print cfg c.output).1.toList.map .writeFailed := by
  have hfilter := filter_logged cfg c h fun level => level = .debug
  rw [Record.failures, record]
  exact hfilter.trans (List.append_nil _)

end Effect

namespace Session

def texts (cfg : Config) (steps : List Step) : List UInt8 :=
  steps.flatMap fun step => (step.effect cfg).text cfg

/--
The text of a step is not empty, and together with the texts of the steps `done` before it, there is
no room for it on the output `o`.
-/
def overruns (cfg : Config) (o : Output) (done : List Step) (step : Step) : Bool :=
  !((step.effect cfg).text cfg).isEmpty && o.lacksRoom (texts cfg (done ++ [step])).length

def triesFlush (cfg : Config) (o : Output) (done : List Step) (step : Step) : Bool :=
  (step.effect cfg).flushing cfg && !overruns cfg o done step

/--
The account of a step with the steps `done` before it, in a session that begins with the output `o`.
The step is observed as `r` and turns the output from `prev` into `next`.
-/
structure Account (cfg : Config) (o : Output) (done : List Step) (step : Step) (r : Record)
    (prev next : Output) : Prop where
  accepted_eq : next.accepted
    = o.accepted ++ (texts cfg (done ++ [step])).take (o.taken (texts cfg (done ++ [step])).length)
  out_eq : prev.accepted ++ r.out = next.accepted
  failures_eq : r.failures
    = if overruns cfg o done step then
        [.writeFailed o.refusalFailure]
      else if triesFlush cfg o done step && o.failsFlush (prev.flushAttempts - o.flushAttempts) then
        [.writeFailed (.fault o.flushFault)]
      else
        []
  flushAttempts_eq : next.flushAttempts
    = prev.flushAttempts + if triesFlush cfg o done step then 1 else 0
  flushes_eq : r.flushes
    = if triesFlush cfg o done step && !o.failsFlush (prev.flushAttempts - o.flushAttempts) then 1
      else 0
  writePieces_eq : ∀ pieces : List (List UInt8), pieces.flatten = (step.effect cfg).text cfg →
    Sink.writePieces prev pieces = prev.writeAll ((step.effect cfg).text cfg)

theorem texts_concat (cfg : Config) (steps : List Step) (step : Step) :
    texts cfg (steps ++ [step]) = texts cfg steps ++ (step.effect cfg).text cfg := by
  rw [texts, List.flatMap_append, List.flatMap_singleton, texts]

theorem receives_run (cfg : Config) (c : Console) (steps : List Step) :
    ∃ n, c.output.Receives (texts cfg steps) n (run cfg c steps).2.output := by
  induction steps generalizing c with
  | nil => exact ⟨0, .refl _⟩
  | cons step steps ih =>
    have hprint := c.output.receives_emit ((step.effect cfg).pieces cfg)
      ((step.effect cfg).flushing cfg)
    rw [← Effect.print_eq_emit] at hprint
    obtain ⟨n, hrest⟩ := ih ((step.effect cfg).after cfg c)
    rw [run_cons_eq]
    exact ⟨_, hprint.trans hrest⟩

theorem overruns_eq {cfg : Config} {o o' : Output} {done : List Step} {n : Nat}
    (h : o.Receives (texts cfg done) n o') (step : Step) :
    overruns cfg o done step = o'.lacksRoom ((step.effect cfg).text cfg).length := by
  rw [Bool.eq_iff_iff, h.lacksRoom_iff, ← texts_concat, overruns]
  simp

theorem account_of_receives (cfg : Config) {o : Output} {c : Console} {done : List Step} {n : Nat}
    (h : o.Receives (texts cfg done) n c.output) (step : Step) :
    Account cfg o done step ((step.effect cfg).record cfg c) c.output
      ((step.effect cfg).after cfg c).output := by
  have hoverruns := overruns_eq h step
  have htries : triesFlush cfg o done step
      = ((step.effect cfg).flushing cfg
          && !c.output.lacksRoom ((step.effect cfg).text cfg).length) := by
    rw [triesFlush, hoverruns]
  have hfails :
      c.output.failsFlush 0 = o.failsFlush (c.output.flushAttempts - o.flushAttempts) := by
    rw [h.failsFlush_eq, h.flushAttempts_eq, Nat.add_sub_cancel_left, Nat.add_zero]
  have hprint := c.output.receives_emit ((step.effect cfg).pieces cfg)
    ((step.effect cfg).flushing cfg)
  rw [← Effect.print_eq_emit, ← Effect.text, ← htries] at hprint
  constructor
  . have hboth := (h.trans hprint).accepted_eq
    rw [← texts_concat] at hboth
    exact hboth
  . change c.output.accepted
        ++ ((step.effect cfg).print cfg c.output).2.accepted.drop c.output.accepted.length
      = ((step.effect cfg).print cfg c.output).2.accepted
    rw [hprint.accepted_eq, List.drop_left]
  . rw [Effect.failures_record fun entry hentry => Step.level_of_mem_entries hentry,
      Effect.print_eq_emit, Output.fst_emit, ← Effect.text, ← hoverruns, h.refusalFailure_eq,
      h.flushFault_eq, hfails, triesFlush]
    cases overruns cfg o done step with
    | true => rfl
    | false =>
      rw [Bool.not_false, Bool.and_true]
      cases (step.effect cfg).flushing cfg
          && o.failsFlush (c.output.flushAttempts - o.flushAttempts) <;> rfl
  . exact hprint.flushAttempts_eq
  . change ((step.effect cfg).print cfg c.output).2.flushes - c.output.flushes = _
    rw [Effect.print_eq_emit, Output.flushes_emit, ← Effect.text, ← htries, hfails,
      Nat.add_sub_cancel_left]
  . intro pieces hpieces
    rw [Output.writePieces_eq, hpieces]

/--
On an output with room for a certain number of bytes that takes them in portions of any size, each
step of a session has its account.
-/
theorem output_accounted (cfg : Config) (c : Console) {steps : List Step} {k : Nat} {step : Step}
    (hstep : steps[k]? = some step) :
    ∃ r, (run cfg c steps).1[k]? = some r
      ∧ Account cfg c.output (steps.take k) step r (run cfg c (steps.take k)).2.output
          (run cfg c (steps.take (k + 1))).2.output := by
  obtain ⟨hrecord, hafter⟩ := getElem?_run cfg c hstep
  obtain ⟨n, hdone⟩ := receives_run cfg c (steps.take k)
  have haccount := account_of_receives cfg hdone step
  rw [← hafter] at haccount
  exact ⟨_, hrecord, haccount⟩

/--
The number leaves room for two bytes of the prompt, behind which nothing is written or flushed.
-/
theorem output_accounted_prompt :
    let c : Console := {
      output := {
        room := some 5
        perWrite := some ⟨2, by decide⟩
        refusal := some ⟨⟨.brokenPipe, none⟩, by decide⟩
        flushesLeft := some 0
      }
    }
    let steps := [.printInt (-12), .callByName "println" [7], .readInt, .println]
    steps[2]? = some .readInt
      ∧ ∃ r, (run {} c steps).1[2]? = some r
        ∧ Account {} c.output (steps.take 2) .readInt r (run {} c (steps.take 2)).2.output
            (run {} c (steps.take 3)).2.output
        ∧ (run {} c (steps.take 3)).2.output.accepted = Text.bytes "-12in"
        ∧ r.failures = [.writeFailed (.fault ⟨.brokenPipe, none⟩)] := by
  intro c steps
  have hstep : steps[2]? = some .readInt := rfl
  obtain ⟨r, hr, haccount⟩ := output_accounted {} c hstep
  have haccepted : (run {} c (steps.take 3)).2.output.accepted = Text.bytes "-12in" := by
    rw [haccount.accepted_eq]
    decide +kernel
  have hoverruns : overruns {} c.output (steps.take 2) .readInt = true := by decide +kernel
  have hfailures : r.failures = [.writeFailed (.fault ⟨.brokenPipe, none⟩)] := by
    rw [haccount.failures_eq, hoverruns]
    rfl
  exact ⟨hstep, r, hr, haccount, haccepted, hfailures⟩

end Session

end IntConsole
