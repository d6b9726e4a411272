import IntConsole.Proofs.CommandLine.Words

/-!
This module contains the ways in which settings can be written on a command line: options in any
order and anywhere among the calls, and calls of any form behind a separator. The main statement is
that every such line is read as the settings that are written on it, or refused when they exclude
each other.
-/

namespace IntConsole

namespace CommandLine

inductive Item where
  | switch (s : Switch)
  | prompt (value : String)
  | promptWord (value : PlainWord)
  | call (text : PlainWord)

namespace Item

def words : Item → List String
  | switch s => [s.word]
  | prompt value => ["--prompt=" ++ value]
  | promptWord value => ["--prompt", value.text]
  | call text => [text.text]

def flag? : Item → Option Flag
  | switch s => some s.flag
  | prompt _ => some .prompt
  | promptWord _ => some .prompt
  | call _ => none

def prompt? : Item → Option String
  | prompt value => some value
  | promptWord value => some value.text
  | _ => none

def call? : Item → Option String
  | call text => some text.text
  | _ => none

theorem flag?_eq_prompt_iff (item : Item) : item.flag? = some .prompt ↔ item.prompt?.isSome := by
  cases item with
  | switch s => cases s <;> simp [flag?, Switch.flag, prompt?]
  | _ => simp [flag?, prompt?]

theorem prompt_mem_flags_iff (items : List Item) :
    .prompt ∈ items.filterMap flag? ↔ (items.findSome? prompt?).isSome := by
  rw [List.findSome?_isSome_iff, List.mem_filterMap]
  simp only [flag?_eq_prompt_iff]

end Item

structure Arrangement where
  front : List Item
  behind : Option (List String) := none
  nodup : (front.filterMap Item.flag?).Nodup

namespace Arrangement

def words (a : Arrangement) : List String :=
  a.front.flatMap Item.words ++ a.behind.elim [] ("--" :: ·)

def flags (a : Arrangement) : List Flag :=
  a.front.filterMap Item.flag?

def settings (a : Arrangement) : Settings where
  abi := .abi ∈ a.flags
  strict := .strict ∈ a.flags
  prompt := a.front.findSome? Item.prompt?
  verbose := .verbose ∈ a.flags
  calls := a.front.filterMap Item.call? ++ a.behind.getD []

end Arrangement

/--
Settings for the console are written together with `--abi`.
-/
def Settings.Conflicting (s : Settings) : Prop :=
  s.abi = true ∧ (s.strict = true ∨ s.prompt.isSome = true)

namespace Line

/--
The words begin with something in front of which a prompt is settled.
-/
def Settling (words : List String) : Prop :=
  ∀ l : Line, l.awaited ≠ .value → l.takeAll words = l.settle >>= fun m => m.takeAll words

theorem settling_of {words : List String} {f : Line → Except Stop Line}
    (h : ∀ l : Line, l.awaited ≠ .value → l.takeAll words = l.settle >>= f) : Settling words := by
  intro l hl
  have hsettled : (l.settle >>= fun m => m.takeAll words) = l.settle >>= fun m => m.settle >>= f := by
    cases hm : l.settle with
    | error stop => rfl
    | ok m =>
      have hnothing := awaited_of_settle hm
      exact h m (by simp [hnothing])
  rw [hsettled, settle_bind, h l hl]

theorem settling_nil : Settling [] := by
  apply settling_of (f := .ok)
  intro l _
  change l.settle = l.settle >>= .ok
  cases l.settle <;> rfl

theorem settling_separator (texts : List String) : Settling ("--" :: texts) :=
  settling_of fun l _ => takeAll_separator rfl l texts

theorem settling_item (item : Item) (words : List String) : Settling (item.words ++ words) := by
  cases item with
  | switch s => exact settling_of fun l _ => takeAll_switch l s words
  | prompt value => exact settling_of fun l _ => takeAll_prompt l value words
  | promptWord value => exact settling_of fun l _ => takeAll_promptWord l value words
  | call text => exact settling_of fun l hl => takeAll_call hl text words

def add (l : Line) (items : List Item) : Line :=
  {
    l with
    given := l.given ++ items.filterMap Item.flag?
    prompt := (items.findSome? Item.prompt?).or l.prompt
    calls := l.calls ++ items.filterMap Item.call?
  }

theorem add_nil (l : Line) : l.add [] = l := by
  simp [add]

theorem add_singleton (l : Line) (item : Item) :
    l.add [item] = {
      l with
      given := l.given ++ item.flag?.toList
      prompt := item.prompt?.or l.prompt
      calls := l.calls ++ item.call?.toList
    } := by
  cases item <;> rfl

theorem add_add (l : Line) {items more : List Item}
    (h : ((items ++ more).filterMap Item.flag?).Nodup) :
    (l.add items).add more = l.add (items ++ more) := by
  have hprompt :
      (more.findSome? Item.prompt?).or ((items.findSome? Item.prompt?).or l.prompt)
        = ((items ++ more).findSome? Item.prompt?).or l.prompt := by
    rw [List.findSome?_append]
    cases hitems : items.findSome? Item.prompt? with
    | none => rfl
    | some value =>
      -- The prompt is written among the first items, so it is not written again.
      have hsome : (items.findSome? Item.prompt?).isSome := by
        rw [hitems]
        rfl
      have hmem := (Item.prompt_mem_flags_iff items).2 hsome
      rw [List.filterMap_append] at h
      have hmore : more.findSome? Item.prompt? = none := by
        rw [← Option.not_isSome_iff_eq_none, ← Item.prompt_mem_flags_iff]
        exact fun hmem' => (List.nodup_append.1 h).2.2 _ hmem _ hmem' rfl
      rw [hmore]
      rfl
  simp only [add, hprompt, List.filterMap_append, List.append_assoc]

theorem takeAll_item {l : Line} (hl : l.awaited = .nothing) {item : Item}
    (hflag : ∀ f ∈ item.flag?, f ∉ l.given) {words : List String} (hwords : Settling words) :
    l.takeAll (item.words ++ words) = (l.add [item]).takeAll words := by
  have hsettle := settle_of_nothing hl
  have hcalls : l.calls ++ [] = l.calls := List.append_nil l.calls
  rw [add_singleton]
  cases item with
  | switch s =>
    change l.takeAll (s.word :: words) = takeAll { l with given := _, calls := l.calls ++ [] } words
    rw [takeAll_switch, hsettle, hcalls]
    exact if_neg (hflag s.flag rfl)
  | prompt value =>
    change l.takeAll (("--prompt=" ++ value) :: words)
      = takeAll { l with given := _, prompt := some value, calls := l.calls ++ [] } words
    rw [takeAll_prompt, hsettle, hcalls]
    change l.setPrompt value >>= _ = _
    rw [setPrompt, if_neg (hflag .prompt rfl), hl]
    rfl
  | promptWord value =>
    change l.takeAll ("--prompt" :: value.text :: words)
      = takeAll { l with given := _, prompt := some value.text, calls := l.calls ++ [] } words
    rw [takeAll_promptWord, hsettle, hcalls]
    -- The prompt is settled by what comes next.
    change takeAll { l with awaited := .settling value.text } words = _
    rw [hwords _ (by simp)]
    change setPrompt { l with awaited := .settling value.text } value.text >>= _ = _
    rw [setPrompt, if_neg (hflag .prompt rfl), hl]
    rfl
  | call text =>
    change l.takeAll (text.text :: words)
      = takeAll { l with given := l.given ++ [], calls := _ } words
    rw [takeAll_call (by simp [hl]), hsettle, List.append_nil]
    rfl

theorem settling_items (items : List Item) {words : List String} (h : Settling words) :
    Settling (items.flatMap Item.words ++ words) := by
  cases items with
  | nil => exact h
  | cons item items =>
    rw [List.flatMap_cons, List.append_assoc]
    exact settling_item item _

theorem takeAll_items {l : Line} (hl : l.awaited = .nothing) {items : List Item}
    (hflags : (l.given ++ items.filterMap Item.flag?).Nodup) {words : List String}
    (hwords : Settling words) :
    l.takeAll (items.flatMap Item.words ++ words) = (l.add items).takeAll words := by
  induction items generalizing l with
  | nil => rw [add_nil, List.flatMap_nil, List.nil_append]
  | cons item items ih =>
    have happend : (item :: items).filterMap Item.flag?
        = [item].filterMap Item.flag? ++ items.filterMap Item.flag? :=
      List.filterMap_append (l := [item])
    have hfresh : ∀ f ∈ item.flag?, f ∉ l.given := by
      intro f hf hmem
      have hf' : f ∈ (item :: items).filterMap Item.flag? :=
        List.mem_filterMap.2 ⟨item, List.mem_cons_self, hf⟩
      exact (List.nodup_append.1 hflags).2.2 f hmem f hf' rfl
    have hrest : ((l.add [item]).given ++ items.filterMap Item.flag?).Nodup := by
      change ((l.given ++ [item].filterMap Item.flag?) ++ items.filterMap Item.flag?).Nodup
      rw [List.append_assoc, ← happend]
      exact hflags
    rw [List.flatMap_cons, List.append_assoc, takeAll_item hl hfresh (settling_items items hwords),
      ih (l := l.add [item]) hl hrest, add_add l (List.nodup_append.1 hflags).2.1]
    rfl

theorem settling_behind (behind : Option (List String)) :
    Settling (behind.elim [] ("--" :: ·)) := by
  cases behind with
  | none => exact settling_nil
  | some texts => exact settling_separator texts

theorem takeAll_behind {l : Line} (hl : l.awaited = .nothing) (behind : Option (List String)) :
    l.takeAll (behind.elim [] ("--" :: ·)) = .ok { l with calls := l.calls ++ behind.getD [] } := by
  cases behind with
  | none =>
    change l.settle = .ok { l with calls := l.calls ++ [] }
    rw [settle_of_nothing hl, List.append_nil]
  | some texts =>
    change l.takeAll ("--" :: texts) = _
    rw [takeAll_separator rfl, settle_of_nothing hl]
    rfl

end Line

namespace Arrangement

def line (a : Arrangement) : Line where
  given := a.flags
  prompt := a.settings.prompt
  calls := a.settings.calls

theorem takeAll_words (a : Arrangement) : Line.takeAll {} a.words = .ok a.line := by
  have hgiven : (([] : List Flag) ++ a.front.filterMap Item.flag?).Nodup := a.nodup
  rw [words, Line.takeAll_items (l := {}) rfl hgiven (Line.settling_behind a.behind),
    Line.takeAll_behind rfl]
  simp [Line.add, line, flags, settings]

theorem isSome_prompt_iff (a : Arrangement) :
    a.settings.prompt.isSome ↔ .prompt ∈ a.flags :=
  (Item.prompt_mem_flags_iff a.front).symm

theorem conflicting_iff (a : Arrangement) :
    a.settings.Conflicting ↔ .abi ∈ a.flags ∧ (.strict ∈ a.flags ∨ .prompt ∈ a.flags) := by
  rw [Settings.Conflicting, isSome_prompt_iff]
  simp [settings]

theorem conflict?_line_eq_none_iff (a : Arrangement) :
    a.line.conflict? = none ↔ ¬a.settings.Conflicting := by
  rw [conflicting_iff, Line.conflict?_eq_none_iff]
  constructor
  . rintro h ⟨habi, hother⟩
    have hexcluded := h .abi habi
    rcases hother with hstrict | hprompt
    . exact hexcluded .strict (by decide) hstrict
    . exact hexcluded .prompt (by decide) hprompt
  . intro h f hf g hg hgiven
    cases f with
    | abi =>
      rcases List.mem_cons.1 hg with rfl | hg
      . exact h ⟨hf, .inl hgiven⟩
      . obtain rfl := List.mem_singleton.1 hg
        exact h ⟨hf, .inr hgiven⟩
    | strict =>
      obtain rfl := List.mem_singleton.1 hg
      exact h ⟨hgiven, .inl hf⟩
    | prompt =>
      obtain rfl := List.mem_singleton.1 hg
      exact h ⟨hgiven, .inr hf⟩
    | _ => cases hg

theorem exists_settings_eq (s : Settings) : ∃ a : Arrangement, a.settings = s := by
  obtain ⟨abi, strict, prompt, verbose, calls⟩ := s
  let front : List Item :=
    (if abi then [.switch .abi] else [])
      ++ (if strict then [.switch .strict] else [])
      ++ (if verbose then [.switch .verbose] else [])
      ++ prompt.toList.map .prompt
  have hnodup : (front.filterMap Item.flag?).Nodup := by
    cases abi <;> cases strict <;> cases verbose <;> cases prompt <;>
      simp [front, Item.flag?, Switch.flag]
  refine ⟨⟨front, some calls, hnodup⟩, ?_⟩
  cases abi <;> cases strict <;> cases verbose <;> cases prompt <;> rfl

end Arrangement

/--
All settings can be written on a command line. However that is done, the line is read as exactly
these settings, with the calls in their order and the default prompt when no prompt is written. Only
when the settings exclude each other is it refused.
-/
theorem parse_arranged (s : Settings) :
    (∃ a : Arrangement, a.settings = s)
      ∧ ∀ a : Arrangement, a.settings = s →
        (s.calls ≠ [] → ¬s.Conflicting →
          parse a.words = .ok s ∧ s.config.prompt = s.prompt.getD defaultPrompt)
          ∧ (s.Conflicting →
            ∃ first others, parse a.words = .error (.refused (.conflict first others))) := by
  refine ⟨Arrangement.exists_settings_eq s, ?_⟩
  rintro a rfl
  have hparse : parse a.words = a.line.finish := by
    rw [parse, a.takeAll_words]
    rfl
  rw [hparse]
  constructor
  . intro hcalls hallowed
    refine ⟨?_, rfl⟩
    rw [Line.finish_eq_ok_iff]
    refine ⟨a.conflict?_line_eq_none_iff.2 hallowed, ?_, rfl⟩
    exact List.isEmpty_eq_false_iff.2 hcalls
  . intro hconflicting
    cases hconflict : a.line.conflict? with
    | none => exact absurd hconflicting (a.conflict?_line_eq_none_iff.1 hconflict)
    | some conflict =>
      obtain ⟨first, others⟩ := conflict
      refine ⟨first, others, ?_⟩
      rw [Line.finish, hconflict]

example : parse ["readInt", "--prompt", "-", "-", "-v", "--", "--abi"]
    = .ok { prompt := some "-", verbose := true, calls := ["readInt", "-", "--abi"] } :=
  rfl

end CommandLine

end IntConsole
