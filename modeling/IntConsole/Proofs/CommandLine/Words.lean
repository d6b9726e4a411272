import IntConsole.CommandLine.Parse

/-!
This module contains what single words of a command line come to, and what is judged behind the last
one. The main statements are equations for options, calls and the separator. All of them settle the
prompt that waits in front of them first.
-/

namespace IntConsole

namespace CommandLine

structure PlainWord where
  text : String
  isPlain : text = "-" ∨ text.toList.head? ≠ some '-'

inductive Switch where
  | abi
  | strict
  | verbose
  | verboseLetter

namespace Switch

def flag : Switch → Flag
  | abi => .abi
  | strict => .strict
  | verbose => .verbose
  | verboseLetter => .verbose

def word : Switch → String
  | abi => "--abi"
  | strict => "--strict"
  | verbose => "--verbose"
  | verboseLetter => "-v"

end Switch

theorem Token.ofWord_plain (w : PlainWord) : ofWord w.text = .word w.text := by
  rcases w.isPlain with h | h
  . rw [h]
    rfl
  . unfold ofWord
    split
    . next hword => simp [hword] at h
    . next hword => simp [hword] at h
    . next hword => simp [hword] at h
    . rfl

theorem Token.ofWord_prompt (value : String) :
    ofWord ("--prompt=" ++ value) = .long "prompt" (some value) := by
  have hword : ("--prompt=" ++ value).toList
      = '-' :: '-' :: ("prompt".toList ++ '=' :: value.toList) := by
    rw [String.toList_append]
    rfl
  unfold ofWord
  rw [hword]
  change long (String.ofList "prompt".toList) (some (String.ofList value.toList)) = _
  rw [String.ofList_toList, String.ofList_toList]

namespace Line

theorem awaited_of_settle {l m : Line} (h : l.settle = .ok m) : m.awaited = .nothing := by
  unfold settle at h
  split at h
  . next hnothing =>
    cases h
    exact hnothing
  . cases h
  . unfold setPrompt at h
    split at h
    . cases h
    . cases h
      rfl

theorem settle_of_nothing {l : Line} (h : l.awaited = .nothing) : l.settle = .ok l := by
  rw [settle, h]

theorem settle_bind {α : Type} (l : Line) (f : Line → Except Stop α) :
    (l.settle >>= fun m => m.settle >>= f) = l.settle >>= f := by
  cases h : l.settle with
  | error stop => rfl
  | ok m =>
    have hsettle : m.settle = .ok m := settle_of_nothing (awaited_of_settle h)
    change m.settle >>= f = f m
    rw [hsettle]
    rfl

theorem takeAll_switch (l : Line) (s : Switch) (words : List String) :
    l.takeAll (s.word :: words)
      =
    l.settle >>= fun m =>
      if s.flag ∈ m.given then
        .error (.refused (.repeated s.flag))
      else
        takeAll { m with given := m.given ++ [s.flag] } words := by
  have hgive :
      l.takeAll (s.word :: words)
        =
      (l.settle >>= fun m =>
        if s.flag ∈ m.given then
          .error (.refused (.repeated s.flag))
        else
          .ok { m with given := m.given ++ [s.flag] }) >>= fun m => m.takeAll words := by
    cases s with
    | abi => rfl
    | strict => rfl
    | verbose => rfl
    | verboseLetter =>
      have hshort : l.takeShort ['v'] = l.takeFlag .verbose false := by
        change (l.takeFlag .verbose false >>= fun m => .ok m) = _
        cases l.takeFlag .verbose false <;> rfl
      change l.takeShort ['v'] >>= _ = _
      rw [hshort]
      rfl
  rw [hgive]
  cases l.settle with
  | error stop => rfl
  | ok m =>
    change (if s.flag ∈ m.given then _ else _) >>= _ = if s.flag ∈ m.given then _ else _
    split <;> rfl

theorem takeAll_prompt (l : Line) (value : String) (words : List String) :
    l.takeAll (("--prompt=" ++ value) :: words)
      =
    l.settle >>= fun m => m.setPrompt value >>= fun m => m.takeAll words := by
  have hname : Flag.ofName? "prompt" = some .prompt := by decide
  rw [takeAll, Token.ofWord_prompt]
  dsimp only
  unfold takeLong
  rw [hname]
  dsimp only
  cases l.settle <;> rfl

theorem takeAll_promptWord (l : Line) (value : PlainWord) (words : List String) :
    l.takeAll ("--prompt" :: value.text :: words)
      =
    l.settle >>= fun m => takeAll { m with awaited := .settling value.text } words := by
  have hprompt : l.takeAll ("--prompt" :: value.text :: words)
      = l.takeFlag .prompt true >>= fun m => m.takeAll (value.text :: words) := rfl
  rw [hprompt, takeFlag]
  cases l.settle with
  | error stop => rfl
  | ok m =>
    change takeAll { m with awaited := .value } (value.text :: words) = _
    rw [takeAll, Token.ofWord_plain]
    rfl

theorem takeAll_call {l : Line} (h : l.awaited ≠ .value) (text : PlainWord)
    (words : List String) :
    l.takeAll (text.text :: words)
      =
    l.settle >>= fun m => takeAll { m with calls := m.calls ++ [text.text] } words := by
  have htake : l.takeWord text.text
      = l.settle >>= fun m => .ok { m with calls := m.calls ++ [text.text] } := by
    unfold takeWord
    split
    . next hvalue => exact absurd hvalue h
    . rfl
  rw [takeAll, Token.ofWord_plain]
  dsimp only
  rw [htake]
  cases l.settle <;> rfl

theorem takeAll_separator {word : String} (h : Token.ofWord word = .separator) (l : Line)
    (words : List String) :
    takeAll l (word :: words)
      =
    l.settle >>= fun l => .ok { l with calls := l.calls ++ words } := by
  rw [takeAll, h]

theorem conflict?_eq_none_iff (l : Line) :
    l.conflict? = none ↔ ∀ f ∈ l.given, ∀ g ∈ f.excluded, g ∉ l.given := by
  unfold conflict?
  rw [List.findSome?_eq_none_iff]
  constructor
  . intro h f hf g hg hgiven
    have := h f hf
    split at this
    . next hnil =>
      have hmem : g ∈ f.excluded.filter (· ∈ l.given) :=
        List.mem_filter.2 ⟨hg, decide_eq_true hgiven⟩
      rw [hnil] at hmem
      cases hmem
    . cases this
  . intro h f hf
    have hnil : f.excluded.filter (· ∈ l.given) = [] := by
      rw [List.filter_eq_nil_iff]
      intro g hg hgiven
      exact h f hf g hg (of_decide_eq_true hgiven)
    rw [hnil]

theorem finish_eq_ok_iff (l : Line) (s : Settings) :
    l.finish = .ok s
      ↔ l.conflict? = none ∧ l.calls.isEmpty = false ∧ s = {
          abi := .abi ∈ l.given
          strict := .strict ∈ l.given
          prompt := l.prompt
          verbose := .verbose ∈ l.given
          calls := l.calls
        } := by
  unfold finish
  cases l.conflict? with
  | some conflict => simp
  | none =>
    cases l.calls.isEmpty with
    | true => simp
    | false =>
      simp only [Bool.false_eq_true, if_false, true_and, Except.ok.injEq]
      exact eq_comm

end Line

end CommandLine

end IntConsole
