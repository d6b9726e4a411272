import IntConsole.Proofs.CommandLine.Words

/-!
This module contains what it comes to when `--abi` is left out of a command line. The main statement
is that the rest of a line that can be read with it is read as before.
-/

namespace IntConsole

namespace CommandLine

theorem bind_eq_ok {ε α β : Type} {x : Except ε α} {f : α → Except ε β} {b : β} :
    x >>= f = .ok b ↔ ∃ a, x = .ok a ∧ f a = .ok b := by
  cases x with
  | ok a =>
    constructor
    . exact fun h => ⟨a, rfl, h⟩
    . rintro ⟨a', ha, h⟩
      cases ha
      exact h
  | error e =>
    constructor
    . intro h
      cases h
    . rintro ⟨a, ha, -⟩
      cases ha

theorem Flag.eq_abi_of_mem_excluded {f g : Flag} (hf : f ≠ .abi) (hg : g ∈ f.excluded) :
    g = .abi := by
  cases f <;> simp_all [excluded]

namespace Line

def without (f : Flag) (l : Line) : Line :=
  { l with given := l.given.filter (· ≠ f) }

def AsksPrompt (l : Line) : Prop :=
  .prompt ∈ l.given ∨ l.awaited ≠ .nothing

/--
A way to take something of a command line that has nothing to do with `--abi`.
-/
structure Neutral (take : Line → Except Stop Line) : Prop where
  mem_abi_iff : ∀ {l m : Line}, take l = .ok m → (.abi ∈ m.given ↔ .abi ∈ l.given)
  asksPrompt : ∀ {l m : Line}, take l = .ok m → l.AsksPrompt → m.AsksPrompt
  prompt_eq : ∀ {l m : Line}, take l = .ok m → ¬ m.AsksPrompt → m.prompt = l.prompt
  take_without : ∀ {l m : Line}, take l = .ok m → take (l.without .abi) = .ok (m.without .abi)

theorem mem_without {f g : Flag} {l : Line} : f ∈ (l.without g).given ↔ f ∈ l.given ∧ f ≠ g := by
  simp [without]

theorem Neutral.bind {take take' : Line → Except Stop Line} (h : Neutral take)
    (h' : Neutral take') : Neutral fun l => take l >>= take' where
  mem_abi_iff hm := by
    obtain ⟨k, hk, hm⟩ := bind_eq_ok.1 hm
    exact (h'.mem_abi_iff hm).trans (h.mem_abi_iff hk)
  asksPrompt hm hl := by
    obtain ⟨k, hk, hm⟩ := bind_eq_ok.1 hm
    exact h'.asksPrompt hm (h.asksPrompt hk hl)
  prompt_eq hm hnot := by
    obtain ⟨k, hk, hm⟩ := bind_eq_ok.1 hm
    have hk' : ¬ k.AsksPrompt := fun hasks => hnot (h'.asksPrompt hm hasks)
    exact (h'.prompt_eq hm hnot).trans (h.prompt_eq hk hk')
  take_without hm := by
    obtain ⟨k, hk, hm⟩ := bind_eq_ok.1 hm
    exact bind_eq_ok.2 ⟨_, h.take_without hk, h'.take_without hm⟩

theorem neutral_error (stop : Stop) : Neutral fun _ => .error stop := by
  constructor <;> nofun

theorem neutral_ok {take : Line → Line} (hgiven : ∀ l, (take l).given = l.given)
    (hprompt : ∀ l, (take l).prompt = l.prompt)
    (hawaited : ∀ l, l.awaited ≠ .nothing → (take l).awaited ≠ .nothing)
    (hwithout : ∀ l, take (l.without .abi) = (take l).without .abi) :
    Neutral fun l => .ok (take l) where
  mem_abi_iff h := by
    cases h
    rw [hgiven]
  asksPrompt h hl := by
    cases h
    rcases hl with hl | hl
    . exact .inl ((hgiven _).symm ▸ hl)
    . exact .inr (hawaited _ hl)
  prompt_eq h _ := by
    cases h
    exact hprompt _
  take_without h := by
    cases h
    rw [hwithout]

theorem neutral_of_awaited {take : Line → Except Stop Line}
    (h : ∀ a, ∃ take', Neutral take' ∧ ∀ l : Line, l.awaited = a → take l = take' l) :
    Neutral take := by
  constructor
  all_goals
    intro l m hm
    obtain ⟨take', hneutral, htake⟩ := h l.awaited
    have hm' := htake l rfl ▸ hm
  . exact hneutral.mem_abi_iff hm'
  . exact hneutral.asksPrompt hm'
  . exact hneutral.prompt_eq hm'
  . rw [htake (l.without .abi) rfl]
    exact hneutral.take_without hm'

theorem neutral_once {f : Flag} (hf : f ≠ .abi) {update : Line → Line}
    (hgiven : ∀ l, (update l).given = l.given ++ [f])
    (hasks : ∀ l, l.AsksPrompt → (update l).AsksPrompt)
    (hprompt : ∀ l, ¬ (update l).AsksPrompt → (update l).prompt = l.prompt)
    (hwithout : ∀ l, update (l.without .abi) = (update l).without .abi) :
    Neutral fun l =>
      if f ∈ l.given then .error (.refused (.repeated f)) else .ok (update l) := by
  have key {l m : Line}
      (h : (if f ∈ l.given then .error (.refused (.repeated f)) else .ok (update l)
        : Except Stop Line) = .ok m) :
      f ∉ l.given ∧ m = update l := by
    split at h
    . cases h
    . next hnot =>
      cases h
      exact ⟨hnot, rfl⟩
  constructor
  . intro l m h
    obtain ⟨-, rfl⟩ := key h
    simp [hgiven, hf.symm]
  . intro l m h hl
    obtain ⟨-, rfl⟩ := key h
    exact hasks l hl
  . intro l m h hnot
    obtain ⟨-, rfl⟩ := key h
    exact hprompt l hnot
  . intro l m h
    obtain ⟨hnot, rfl⟩ := key h
    have hnot' : f ∉ (l.without .abi).given := fun h => hnot (mem_without.1 h).1
    rw [if_neg hnot', hwithout]

theorem neutral_setPrompt (value : String) : Neutral (·.setPrompt value) := by
  have hasks (l : Line) : AsksPrompt {
      l with
      given := l.given ++ [.prompt]
      prompt := some value
      awaited := .nothing
    } :=
    .inl (by simp)
  apply neutral_once (f := .prompt) (by decide)
  . intro l
    rfl
  . intro l _
    exact hasks l
  . intro l hnot
    exact absurd (hasks l) hnot
  . intro l
    simp [without]

theorem neutral_settle : Neutral settle := by
  apply neutral_of_awaited
  intro a
  cases a with
  | nothing =>
    refine ⟨.ok, neutral_ok (fun _ => rfl) (fun _ => rfl) (fun _ => id) (fun _ => rfl), ?_⟩
    intro l hl
    rw [settle, hl]
  | value =>
    refine ⟨_, neutral_error (.refused .missingValue), ?_⟩
    intro l hl
    rw [settle, hl]
  | settling value =>
    refine ⟨_, neutral_setPrompt value, ?_⟩
    intro l hl
    rw [settle, hl]

theorem neutral_give {f : Flag} (hf : f ≠ .abi) :
    Neutral fun l =>
      if f ∈ l.given then
        .error (.refused (.repeated f))
      else
        .ok { l with given := l.given ++ [f] } := by
  apply neutral_once hf
  . intro l
    rfl
  . intro l hl
    exact hl.imp_left (List.mem_append_left _)
  . intro l _
    rfl
  . intro l
    simp [without, hf]

theorem neutral_takeFlag {f : Flag} (hf : f ≠ .abi) (long : Bool) :
    Neutral (·.takeFlag f long) := by
  cases f with
  | abi => exact absurd rfl hf
  | strict => exact neutral_settle.bind (neutral_give hf)
  | verbose => exact neutral_settle.bind (neutral_give hf)
  | help => exact neutral_settle.bind (neutral_error _)
  | version => exact neutral_settle.bind (neutral_error _)
  | prompt =>
    apply neutral_settle.bind
    exact neutral_ok (fun _ => rfl) (fun _ => rfl) (fun _ _ => nofun) (fun _ => rfl)

theorem neutral_takeLong {name : String} {value : Option String}
    (h : name = "abi" → value ≠ none) : Neutral (·.takeLong name value) := by
  unfold takeLong
  split
  . exact neutral_error _
  . next f hf =>
    apply neutral_takeFlag
    rintro rfl
    have hname := List.find?_some hf
    exact h (beq_iff_eq.1 hname).symm rfl
  . exact neutral_settle.bind (neutral_setPrompt _)
  . exact neutral_error _

theorem neutral_takeShort (letters : List Char) : Neutral (·.takeShort letters) := by
  induction letters with
  | nil => exact neutral_ok (fun _ => rfl) (fun _ => rfl) (fun _ => id) (fun _ => rfl)
  | cons letter letters ih =>
    unfold takeShort
    split
    . exact neutral_error _
    . next f hf =>
      have hne : f ≠ .abi := by
        rintro rfl
        unfold Flag.ofLetter? at hf
        split at hf <;> cases hf
      exact (neutral_takeFlag hne false).bind ih

theorem neutral_takeWord (text : String) : Neutral (·.takeWord text) := by
  have hcall :
      Neutral fun l => l.settle >>= fun l => .ok { l with calls := l.calls ++ [text] } := by
    apply neutral_settle.bind
    exact neutral_ok (fun _ => rfl) (fun _ => rfl) (fun _ => id) (fun _ => rfl)
  apply neutral_of_awaited
  intro a
  cases a with
  | nothing =>
    refine ⟨_, hcall, ?_⟩
    intro l hl
    rw [takeWord, hl]
  | value =>
    refine ⟨fun l => .ok { l with awaited := .settling text }, ?_, ?_⟩
    . exact neutral_ok (fun _ => rfl) (fun _ => rfl) (fun _ _ => nofun) (fun _ => rfl)
    . intro l hl
      rw [takeWord, hl]
  | settling value =>
    refine ⟨_, hcall, ?_⟩
    intro l hl
    rw [takeWord, hl]

end Line

theorem Token.eq_of_ofWord {word : String} (h : ofWord word = .long "abi" none) :
    word = "--abi" := by
  unfold ofWord at h
  split at h
  . cases h
  . next rest hnot hword =>
    dsimp only at h
    split at h
    . next hrest =>
      have hname : rest.takeWhile (· != '=') = "abi".toList := by
        rw [← (Token.long.inj h).1, String.toList_ofList]
      have hall := List.takeWhile_append_dropWhile (p := (· != '=')) (l := rest)
      rw [hrest, List.append_nil, hname] at hall
      rw [← hall] at hword
      exact String.toList_injective hword
    . have hvalue := (Token.long.inj h).2
      cases hvalue
  . cases h
  . cases h

namespace Line

theorem exists_neutral {word : String} (habi : word ≠ "--abi")
    (hsep : Token.ofWord word ≠ .separator) :
    ∃ take, Neutral take
      ∧ ∀ l words, takeAll l (word :: words) = take l >>= fun m => m.takeAll words := by
  cases htoken : Token.ofWord word with
  | separator => exact absurd htoken hsep
  | long name value =>
    refine ⟨(·.takeLong name value), neutral_takeLong ?_, ?_⟩
    . rintro rfl rfl
      exact habi (Token.eq_of_ofWord htoken)
    . intro l words
      rw [takeAll, htoken]
  | short letters =>
    refine ⟨(·.takeShort letters), neutral_takeShort letters, ?_⟩
    intro l words
    rw [takeAll, htoken]
  | word text =>
    refine ⟨(·.takeWord text), neutral_takeWord text, ?_⟩
    intro l words
    rw [takeAll, htoken]

theorem takeAll_abi (l : Line) (words : List String) :
    takeAll l ("--abi" :: words)
      =
    l.settle >>= fun m =>
      if .abi ∈ m.given then
        .error (.refused (.repeated .abi))
      else
        takeAll { m with given := m.given ++ [.abi] } words :=
  takeAll_switch l .abi words

theorem prompt_of_takeAll {l m : Line} {words : List String} (h : takeAll l words = .ok m) :
    (l.AsksPrompt → .prompt ∈ m.given) ∧ (.prompt ∉ m.given → m.prompt = l.prompt) := by
  have of_settle {l m : Line} (h : l.settle = .ok m) :
      (l.AsksPrompt → .prompt ∈ m.given) ∧ (.prompt ∉ m.given → m.prompt = l.prompt) := by
    have hnothing := awaited_of_settle h
    constructor
    . intro hl
      exact (neutral_settle.asksPrompt h hl).resolve_right fun hne => hne hnothing
    . intro hnot
      apply neutral_settle.prompt_eq h
      rintro (hm | hm)
      . exact hnot hm
      . exact hm hnothing
  induction words generalizing l with
  | nil => exact of_settle h
  | cons word words ih =>
    by_cases habi : word = "--abi"
    . subst habi
      rw [takeAll_abi] at h
      obtain ⟨k, hk, h⟩ := bind_eq_ok.1 h
      obtain ⟨hasks, hprompt⟩ := of_settle hk
      split at h
      . cases h
      . obtain ⟨hasks', hprompt'⟩ := ih h
        constructor
        . intro hl
          exact hasks' (.inl (List.mem_append_left _ (hasks hl)))
        . intro hnot
          have hk' : .prompt ∉ k.given :=
            fun hk => hnot (hasks' (.inl (List.mem_append_left _ hk)))
          exact (hprompt' hnot).trans (hprompt hk')
    by_cases hsep : Token.ofWord word = .separator
    . rw [takeAll_separator hsep] at h
      obtain ⟨k, hk, h⟩ := bind_eq_ok.1 h
      cases h
      exact of_settle (m := k) hk
    . obtain ⟨take, hneutral, htake⟩ := exists_neutral habi hsep
      rw [htake] at h
      obtain ⟨k, hk, h⟩ := bind_eq_ok.1 h
      obtain ⟨hasks, hprompt⟩ := ih h
      refine ⟨fun hl => hasks (hneutral.asksPrompt hk hl), ?_⟩
      intro hnot
      exact (hprompt hnot).trans (hneutral.prompt_eq hk fun hasksk => hnot (hasks hasksk))

theorem takeAll_without {l m : Line} {words : List String} (h : takeAll l words = .ok m)
    (habi : .abi ∈ l.given) : takeAll (l.without .abi) words = .ok (m.without .abi) := by
  induction words generalizing l with
  | nil => exact neutral_settle.take_without h
  | cons word words ih =>
    by_cases hword : word = "--abi"
    . subst hword
      rw [takeAll_abi] at h
      obtain ⟨k, hk, h⟩ := bind_eq_ok.1 h
      rw [if_pos ((neutral_settle.mem_abi_iff hk).2 habi)] at h
      cases h
    by_cases hsep : Token.ofWord word = .separator
    . rw [takeAll_separator hsep] at h
      obtain ⟨k, hk, h⟩ := bind_eq_ok.1 h
      cases h
      rw [takeAll_separator hsep]
      exact bind_eq_ok.2 ⟨_, neutral_settle.take_without hk, rfl⟩
    . obtain ⟨take, hneutral, htake⟩ := exists_neutral hword hsep
      rw [htake] at h
      obtain ⟨k, hk, h⟩ := bind_eq_ok.1 h
      rw [htake]
      have hk' := (hneutral.mem_abi_iff hk).2 habi
      exact bind_eq_ok.2 ⟨_, hneutral.take_without hk, ih h hk'⟩

theorem without_give_abi {l : Line} (h : .abi ∉ l.given) :
    ({ l with given := l.given ++ [.abi] } : Line).without .abi = l := by
  have hfilter : l.given.filter (· ≠ .abi) = l.given := by
    rw [List.filter_eq_self]
    intro f hf
    apply decide_eq_true
    rintro rfl
    exact h hf
  change ({ l with given := (l.given ++ [Flag.abi]).filter (· ≠ .abi) } : Line) = l
  rw [List.filter_append, hfilter]
  simp

theorem takeAll_erase {l m : Line} {words : List String} (h : takeAll l words = .ok m)
    (hl : .abi ∉ l.given) (hm : .abi ∈ m.given) (hprompt : .prompt ∉ m.given) :
    takeAll l (words.erase "--abi") = .ok (m.without .abi) := by
  induction words generalizing l with
  | nil => exact absurd ((neutral_settle.mem_abi_iff h).1 hm) hl
  | cons word words ih =>
    by_cases hword : word = "--abi"
    . subst hword
      -- There is no prompt on the whole line, so none can be waiting here to be settled.
      have hnothing : l.awaited = .nothing :=
        Decidable.byContradiction fun hne => hprompt ((prompt_of_takeAll h).1 (.inr hne))
      have hsettle : l.settle = .ok l := by rw [settle, hnothing]
      rw [takeAll_abi, hsettle] at h
      change (if .abi ∈ l.given then _ else _) = _ at h
      rw [if_neg hl] at h
      have hrest := takeAll_without h (List.mem_append_right _ (List.mem_singleton.2 rfl))
      rw [without_give_abi hl] at hrest
      rw [List.erase_cons_head]
      exact hrest
    by_cases hsep : Token.ofWord word = .separator
    . rw [takeAll_separator hsep] at h
      obtain ⟨k, hk, h⟩ := bind_eq_ok.1 h
      cases h
      exact absurd ((neutral_settle.mem_abi_iff hk).1 hm) hl
    . obtain ⟨take, hneutral, htake⟩ := exists_neutral hword hsep
      rw [htake] at h
      obtain ⟨k, hk, h⟩ := bind_eq_ok.1 h
      have hk' : .abi ∉ k.given := fun hmem => hl ((hneutral.mem_abi_iff hk).1 hmem)
      rw [List.erase_cons_tail (by simpa using hword), htake]
      exact bind_eq_ok.2 ⟨k, hk, ih h hk'⟩

end Line

/--
A command line with `--abi` that can be read has no options for the console, and when `--abi` is
left out, the rest of it is read as before.
-/
theorem parse_erase_abi {words : List String} {s : Settings} (h : parse words = .ok s)
    (habi : s.abi = true) :
    parse (words.erase "--abi") = .ok { s with abi := false }
      ∧ s.strict = false ∧ s.prompt = none := by
  obtain ⟨l, htake, hfinish⟩ := bind_eq_ok.1 h
  obtain ⟨hconflict, hcalls, rfl⟩ := (l.finish_eq_ok_iff s).1 hfinish
  have hgiven : .abi ∈ l.given := of_decide_eq_true habi
  have hexcludes := (l.conflict?_eq_none_iff.1 hconflict) .abi hgiven
  have hstrict : .strict ∉ l.given := hexcludes .strict (by decide)
  have hprompt : .prompt ∉ l.given := hexcludes .prompt (by decide)
  refine ⟨?_, decide_eq_false hstrict, (Line.prompt_of_takeAll htake).2 hprompt⟩
  have hwithout := Line.takeAll_erase htake (by simp) hgiven hprompt
  refine bind_eq_ok.2 ⟨_, hwithout, ?_⟩
  rw [Line.finish_eq_ok_iff, Line.conflict?_eq_none_iff]
  refine ⟨?_, hcalls, ?_⟩
  . intro f hf g hg hmem
    have hne : f ≠ .abi := (Line.mem_without.1 hf).2
    exact (Line.mem_without.1 hmem).2 (Flag.eq_abi_of_mem_excluded hne hg)
  . simp [Line.without]

end CommandLine

end IntConsole
