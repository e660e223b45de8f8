import Mathlib.Data.List.GetD
import Dilemma.Interpretation.Script

/-! # Scripts as lists of outcomes

A script works through a queue for each key. Seen from outside it is simpler: the answer to a
request is found in the outcomes that were scripted for its key, at the place that the earlier
requests for this key have left it at. Requests for other keys do not matter. -/

namespace Dilemma

/-- The key that a request comes to when its text is normalised. -/
def Request.key (request : Request) : StrategyKey := .ofText request.text

/-- The reactions to requests one after another, and the state behind them. -/
def Translator.serve {State : Type} (translator : Translator State) :
    List Request → State → List Reaction × State
  | [], state => ([], state)
  | request :: rest, state =>
      let (reaction, state) := translator.translate request state
      let (others, state) := translator.serve rest state
      (reaction :: others, state)

theorem Translator.serve_cons {State : Type} (translator : Translator State) (request : Request)
    (rest : List Request) (state : State) :
    let first := translator.translate request state
    let others := translator.serve rest first.2
    translator.serve (request :: rest) state = (first.1 :: others.1, others.2) := rfl

namespace Script

/-! ## What was scripted -/

/-- A script of texts with their outcomes. -/
def ofParts (parts : List (String × List Outcome)) : Script :=
  parts.foldl (fun script part => script.withOutcomes part.1 part.2) .empty

/-- Of all outcomes that were scripted for a key, only the last ones count. -/
def scripted? (parts : List (String × List Outcome)) (key : StrategyKey) :
    Option (List Outcome) :=
  (parts.reverse.find? (StrategyKey.ofText ·.1 = key)).map (·.2)

/-- The answer to a request for a key with these outcomes, after so many others for it. -/
def due : Option (List Outcome) → (asked : Nat) → Outcome
  | none, _ => .ok (.failed "no scripted response")
  | some [], _ => .ok (.failed "empty script")
  | some (first :: rest), asked => (first :: rest).getD (min asked rest.length) first

theorem queue?_setQueue (script : Script) (key other : StrategyKey) (outcomes : List Outcome) :
    (script.setQueue key outcomes).queue? other =
      if key = other then some outcomes else script.queue? other := by
  rw [queue?, setQueue, List.find?_cons]
  by_cases same : key = other
  · simp [same]
  · have others : (script.queues.filter (·.1 ≠ key)).find? (·.1 = other) =
        script.queues.find? (·.1 = other) := by
      rw [List.find?_filter]
      congr 1
      funext queue
      by_cases here : queue.1 = other
      · simp [here, Ne.symm same]
      · simp [here]
    rw [decide_eq_false same, if_neg same, queue?, ← others]

theorem queue?_foldl (parts : List (String × List Outcome)) (script : Script)
    (key : StrategyKey) :
    (parts.foldl (fun script part => script.withOutcomes part.1 part.2) script).queue? key =
      (scripted? parts key).or (script.queue? key) := by
  induction parts generalizing script with
  | nil => rfl
  | cons part rest induction =>
      rw [List.foldl_cons, induction, withOutcomes, queue?_setQueue, scripted?, scripted?,
        List.reverse_cons, List.find?_append, Option.map_or, Option.or_assoc]
      by_cases same : StrategyKey.ofText part.1 = key
      · simp [same]
      · simp [same]

theorem queue?_ofParts (parts : List (String × List Outcome)) (key : StrategyKey) :
    (ofParts parts).queue? key = scripted? parts key := by
  rw [ofParts, queue?_foldl]
  exact Option.or_none

theorem calls_ofParts (parts : List (String × List Outcome)) : (ofParts parts).calls = 0 :=
  List.foldlRecOn (motive := fun script : Script => script.calls = 0) parts _ rfl
    (fun _ unasked _ _ => unasked)

/-! ## One request -/

/-- The outcomes that are left once one has been taken. The last one is never used up. -/
def remaining : List Outcome → List Outcome
  | _ :: next :: rest => next :: rest
  | outcomes => outcomes

theorem due_remaining (outcomes? : Option (List Outcome)) (asked : Nat) :
    due (outcomes?.map remaining) asked = due outcomes? (asked + 1) := by
  match outcomes? with
  | none => rfl
  | some [] => rfl
  | some [outcome] => simp [remaining, due]
  | some (outcome :: next :: rest) =>
      have place : min (asked + 1) (rest.length + 1) = min asked rest.length + 1 := by omega
      have within : min asked rest.length < (next :: rest).length := by
        rw [List.length_cons]
        omega
      rw [Option.map_some, remaining, due, due, List.length_cons, place, List.getD_cons_succ,
        List.getD_eq_getElem _ _ within, List.getD_eq_getElem _ _ within]

variable (script : Script) (key : StrategyKey)

theorem take_fst : (script.take key).1 = due (script.queue? key) 0 := by
  rw [take]
  split <;>
    rename_i found <;>
    rw [found] <;>
    rfl

theorem calls_take : (script.take key).2.calls = script.calls := by
  rw [take]
  split <;> rfl

/-- Only the queue of the key changes. -/
theorem queue?_take (other : StrategyKey) :
    (script.take key).2.queue? other =
      if key = other then (script.queue? key).map remaining else script.queue? other := by
  have kept {outcomes? : Option (List Outcome)} (found : script.queue? key = outcomes?)
      (stays : outcomes?.map remaining = outcomes?) :
      script.queue? other =
        if key = other then outcomes?.map remaining else script.queue? other := by
    split
    · rename_i same
      rw [stays, ← found, same]
    · rfl
  rw [take]
  split
  · rename_i found
    rw [found]
    exact kept found rfl
  · rename_i found
    rw [found]
    exact kept found rfl
  · rename_i found
    rw [found]
    exact kept found rfl
  · rename_i found
    rw [found]
    exact queue?_setQueue script key other _

variable (delay : Duration) (request : Request)

theorem translate_fst :
    ((translator delay).translate request script).1 =
      ⟨.returns (due (script.queue? request.key) 0), delay, []⟩ :=
  congrArg (fun outcome => Reaction.mk (.returns outcome) delay [])
    (take_fst { script with calls := script.calls + 1 } _)

theorem calls_translate :
    ((translator delay).translate request script).2.calls = script.calls + 1 :=
  calls_take { script with calls := script.calls + 1 } _

theorem queue?_translate (key : StrategyKey) :
    ((translator delay).translate request script).2.queue? key =
      if request.key = key then (script.queue? key).map remaining else script.queue? key := by
  refine (queue?_take { script with calls := script.calls + 1 } request.key key).trans ?_
  by_cases same : request.key = key
  · rw [if_pos same, if_pos same, same]
    rfl
  · rw [if_neg same, if_neg same]
    rfl

/-! ## Requests in a row -/

theorem calls_serve (requests : List Request) :
    ((translator delay).serve requests script).2.calls = script.calls + requests.length := by
  induction requests generalizing script with
  | nil => rfl
  | cons request rest induction =>
      rw [Translator.serve_cons, induction, calls_translate, List.length_cons]
      omega

/-- How many of the requests are for the key. -/
def countFor (key : StrategyKey) (requests : List Request) : Nat :=
  requests.countP (·.key = key)

theorem countFor_cons (request : Request) (requests : List Request) :
    countFor key (request :: requests) =
      countFor key requests + if request.key = key then 1 else 0 := by
  simp [countFor, List.countP_cons]

theorem getElem?_serve (requests : List Request) (position : Nat) :
    ((translator delay).serve requests script).1[position]? =
      requests[position]?.map fun request => Reaction.mk
        (.returns (due (script.queue? request.key) (countFor request.key (requests.take position))))
        delay [] := by
  induction requests generalizing script position with
  | nil => rfl
  | cons request rest induction =>
      rw [Translator.serve_cons]
      cases position with
      | zero =>
          rw [List.getElem?_cons_zero, List.getElem?_cons_zero, translate_fst]
          rfl
      | succ position =>
          rw [List.getElem?_cons_succ, List.getElem?_cons_succ, induction]
          refine congrArg (rest[position]?.map ·) (funext fun later => ?_)
          rw [queue?_translate, List.take_succ_cons, countFor_cons]
          split
          · rw [due_remaining]
          · rfl

/-- What is left out was for other keys. -/
theorem filter_serve (requests : List Request) {script other : Script} {key : StrategyKey}
    (same : script.queue? key = other.queue? key) :
    ((requests.zip ((translator delay).serve requests script).1).filter (·.1.key = key)).map (·.2) =
      ((translator delay).serve (requests.filter (·.key = key)) other).1 := by
  induction requests generalizing script other with
  | nil => rfl
  | cons request rest induction =>
      rw [Translator.serve_cons, List.zip_cons_cons, List.filter_cons, List.filter_cons]
      by_cases asked : request.key = key
      · have next : ((translator delay).translate request script).2.queue? key =
            ((translator delay).translate request other).2.queue? key := by
          rw [queue?_translate, queue?_translate, same]
        rw [if_pos (decide_eq_true asked), if_pos (decide_eq_true asked), List.map_cons,
          induction next, Translator.serve_cons, translate_fst, translate_fst, asked, same]
      · have next : ((translator delay).translate request script).2.queue? key =
            other.queue? key := by
          rw [queue?_translate, if_neg asked, same]
        have dropped : ¬ decide (request.key = key) = true := by rwa [decide_eq_true_eq]
        rw [if_neg dropped, if_neg dropped, induction next]

/-- Every request is answered with the outcome that is due for its key: they come in the order in
which they were scripted, and the last one again and again. The answers for one key are those
that a script gives that is asked for nothing else. Each request is counted. -/
theorem answered_in_order (parts : List (String × List Outcome)) (delay : Duration)
    (requests : List Request) :
    let served := (translator delay).serve requests (ofParts parts)
    (∀ position, served.1[position]? = requests[position]?.map fun request => Reaction.mk
      (.returns (due (scripted? parts request.key)
        (countFor request.key (requests.take position)))) delay []) ∧
    (∀ key, ((requests.zip served.1).filter (·.1.key = key)).map (·.2) =
      ((translator delay).serve (requests.filter (·.key = key)) (ofParts parts)).1) ∧
    served.2.calls = requests.length := by
  intro served
  refine ⟨fun position => ?_, fun key => filter_serve delay requests rfl, ?_⟩
  · rw [getElem?_serve]
    simp only [queue?_ofParts]
  · rw [calls_serve, calls_ofParts, Nat.zero_add]

end Script

end Dilemma
