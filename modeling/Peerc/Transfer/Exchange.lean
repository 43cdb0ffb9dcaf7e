import Mathlib.Data.List.Basic

/-!
The exchange about one transfer, seen from outside: the phases of its two ends and the signals on
their way between them. Each end reads one frame at a time or moves on its own.
-/
namespace Peerc.Transfer
open List

/-- Over: failed, rejected or given up without a word. -/
inductive SendPhase where
  | absent | offering | waiting | streaming | finishing | awaiting (ack : Option Bool) | completed
  | over
  deriving DecidableEq

/-- Winning: verified and acknowledged, and successful unless the last move of the file fails. -/
inductive RecvPhase where
  | fresh | asked | live | winning | gone
  deriving DecidableEq

inductive Signal where
  | offer | data | done | error
  deriving DecidableEq

inductive Reply where
  | accept | reject | ack (success : Bool) | error
  deriving DecidableEq

inductive SendMove : Option Reply → SendPhase → List Signal → SendPhase → Prop
  | stay (p : SendPhase) : SendMove none p [] p
  | offer : SendMove none .absent [.offer] .offering
  | offerSent : SendMove none .offering [] .waiting
  | data : SendMove none .streaming [.data] .streaming
  | done : SendMove none .streaming [.done] .finishing
  | giveUp : SendMove none .streaming [] .over
  | doneSent : SendMove none .finishing [] (.awaiting none)
  | resolve (success : Bool) :
      SendMove none (.awaiting (some success)) [] (if success then .completed else .over)
  | accepted : SendMove (some .accept) .waiting [] .streaming
  | unknown (p : SendPhase) (signals : List Signal) (notWaiting : p ≠ .waiting) :
      SendMove (some .accept) p signals p
  | rejected : SendMove (some .reject) .waiting [] .over
  | rejectDropped (p : SendPhase) : SendMove (some .reject) p [] p
  | acked (ack : Option Bool) (success : Bool) :
      SendMove (some (.ack success)) (.awaiting ack) [] (.awaiting (some success))
  | ackDropped (success : Bool) (p : SendPhase) (notAwaiting : ∀ ack, p ≠ .awaiting ack) :
      SendMove (some (.ack success)) p [] p
  | aborted (p : SendPhase) (sending : p = .streaming ∨ p = .finishing) :
      SendMove (some (.ack false)) p [] .over
  | failed (p : SendPhase) : SendMove (some .error) p [] .over
  | errorDropped (p : SendPhase) : SendMove (some .error) p [] p

inductive RecvMove : Option Signal → RecvPhase → List Reply → RecvPhase → Prop
  | stay (r : RecvPhase) : RecvMove none r [] r
  | refused (r : RecvPhase) : RecvMove (some .offer) r [.reject] r
  | asked : RecvMove (some .offer) .fresh [] .asked
  | declined : RecvMove none .asked [.reject] .fresh
  | unopened : RecvMove none .asked [] .fresh
  | accepted : RecvMove none .asked [.accept] .live
  | stored : RecvMove (some .data) .live [] .live
  | aborted : RecvMove (some .data) .live [.ack false] .gone
  | verified : RecvMove (some .done) .live [.ack true] .winning
  | mismatched : RecvMove (some .done) .live [.ack false] .gone
  | unread : RecvMove (some .done) .live [] .gone
  | unknown (f : Signal) (r : RecvPhase) (replies : List Reply) (notOffer : f ≠ .offer)
      (notLive : r ≠ .live) (errors : ∀ x ∈ replies, x = .error) : RecvMove (some f) r replies r
  | errored (r r' : RecvPhase) : RecvMove (some .error) r [] r'
  | unfinished : RecvMove none .winning [] .gone

def Data (q : List Signal) : Prop := ∀ f ∈ q, f = .data

def Closing (q : List Signal) : Prop := ∃ front, Data front ∧ q = front ++ [.done]

def Content (q : List Signal) : Prop := ∀ f ∈ q, f = .data ∨ f = .done

def Losing (replies : List Reply) : Prop := ∀ x ∈ replies, x = .ack false ∨ x = .error

/-- The states of the exchange that are reached while the sender reads nothing early. -/
inductive Agrees : SendPhase → List Signal → RecvPhase → List Reply → Prop
  | absent : Agrees .absent [] .fresh []
  | offered (p : SendPhase) (early : p = .offering ∨ p = .waiting) : Agrees p [.offer] .fresh []
  | unanswered (p : SendPhase) (early : p = .offering ∨ p = .waiting) : Agrees p [] .fresh []
  | rejected (p : SendPhase) (early : p = .offering ∨ p = .waiting) : Agrees p [] .fresh [.reject]
  | asked (p : SendPhase) (early : p = .offering ∨ p = .waiting) : Agrees p [] .asked []
  | accepted (p : SendPhase) (early : p = .offering ∨ p = .waiting) : Agrees p [] .live [.accept]
  | streaming (q : List Signal) (data : Data q) : Agrees .streaming q .live []
  | closing (p : SendPhase) (q : List Signal) (late : p = .finishing ∨ p = .awaiting none)
      (closing : Closing q) : Agrees p q .live []
  | acknowledged (p : SendPhase) (r : RecvPhase) (late : p = .finishing ∨ p = .awaiting none)
      (verified : r = .winning ∨ r = .gone) : Agrees p [] r [.ack true]
  | told (r : RecvPhase) (verified : r = .winning ∨ r = .gone) :
      Agrees (.awaiting (some true)) [] r []
  | completed (r : RecvPhase) (verified : r = .winning ∨ r = .gone) : Agrees .completed [] r []
  | abandoned (q : List Signal) (data : Data q) : Agrees .over q .live []
  | turnedDown : Agrees .over [] .fresh []
  | broken (p : SendPhase) (q : List Signal) (replies : List Reply)
      (phase : p = .streaming ∨ p = .finishing ∨ p = .awaiting none ∨ p = .awaiting (some false) ∨
        p = .over) (content : Content q) (losing : Losing replies) : Agrees p q .gone replies

variable {q : List Signal}

theorem data_concat (data : Data q) : Data (q ++ [.data]) := by
  intro f member
  rcases mem_append.mp member with old | new
  · exact data f old
  · exact mem_singleton.mp new

variable {f : Signal}

theorem content_concat (content : Content q)
    (isContent : f = .data ∨ f = .done) : Content (q ++ [f]) := by
  intro g member
  rcases mem_append.mp member with old | new
  · exact content g old
  · rw [mem_singleton.mp new]
    exact isContent

theorem Data.tail (data : Data (f :: q)) : Data q :=
  fun g member => data g (mem_cons_of_mem f member)

theorem Content.tail (content : Content (f :: q)) : Content q :=
  fun g member => content g (mem_cons_of_mem f member)

variable {replies : List Reply}

theorem Losing.tail {x : Reply} (losing : Losing (x :: replies)) :
    Losing replies := fun y member => losing y (mem_cons_of_mem x member)

theorem Data.content (data : Data q) : Content q :=
  fun f member => .inl (data f member)

theorem Closing.content (closing : Closing q) : Content q := by
  obtain ⟨_, data, rfl⟩ := closing
  exact content_concat data.content (.inr rfl)

theorem closing_cons (closing : Closing (f :: q)) :
    (f = .done ∧ q = []) ∨ (f = .data ∧ Closing q) := by
  obtain ⟨front, data, split⟩ := closing
  cases front with
  | nil =>
    cases split
    exact .inl ⟨rfl, rfl⟩
  | cons _ front =>
    cases split
    exact .inr ⟨data f mem_cons_self, front, data.tail, rfl⟩

variable {more : List Reply}

theorem losing_append (losing : Losing replies) (losing' : Losing more) :
    Losing (replies ++ more) := by
  intro x member
  rcases mem_append.mp member with old | new
  · exact losing x old
  · exact losing' x new

inductive Incoming (p : SendPhase) (q : List Signal) : Signal → RecvPhase → List Reply → Prop
  | offer (early : p = .offering ∨ p = .waiting) (last : q = []) : Incoming p q .offer .fresh []
  | data (stream : (p = .streaming ∨ p = .over) ∧ Data q ∨
      (p = .finishing ∨ p = .awaiting none) ∧ Closing q) : Incoming p q .data .live []
  | done (late : p = .finishing ∨ p = .awaiting none) (last : q = []) : Incoming p q .done .live []
  | late (f : Signal) (replies : List Reply) (isContent : f = .data ∨ f = .done)
      (agrees : ∀ more, Losing more → Agrees p q .gone (replies ++ more)) :
      Incoming p q f .gone replies

variable {p : SendPhase} {r : RecvPhase}

theorem incoming {w : List Signal} (agrees : Agrees p w r replies) (first : w = f :: q) :
    Incoming p q f r replies := by
  cases agrees with
  | offered _ early =>
    cases first
    exact .offer early rfl
  | streaming _ data =>
    subst first
    cases data f mem_cons_self
    exact .data (.inl ⟨.inl rfl, data.tail⟩)
  | abandoned _ data =>
    subst first
    cases data f mem_cons_self
    exact .data (.inl ⟨.inr rfl, data.tail⟩)
  | closing _ _ late closing =>
    subst first
    rcases closing_cons closing with ⟨rfl, rfl⟩ | ⟨rfl, rest⟩
    · exact .done late rfl
    · exact .data (.inr ⟨late, rest⟩)
  | broken p _ replies phase content losing =>
    subst first
    exact .late f replies (content f mem_cons_self) (fun more losing' =>
      .broken p q _ phase content.tail (losing_append losing losing'))
  | absent | unanswered | rejected | asked | accepted | acknowledged | told | completed
  | turnedDown => cases first

theorem agrees_dropped (stream : (p = .streaming ∨ p = .over) ∧ Data q ∨
      (p = .finishing ∨ p = .awaiting none) ∧ Closing q) (losing : Losing more) :
    Agrees p q .gone more := by
  rcases stream with ⟨streaming | ended, data⟩ | ⟨finishing | awaiting, closing⟩
  · exact .broken p q more (.inl streaming) data.content losing
  · exact .broken p q more (.inr (.inr (.inr (.inr ended)))) data.content losing
  · exact .broken p q more (.inr (.inl finishing)) closing.content losing
  · exact .broken p q more (.inr (.inr (.inl awaiting))) closing.content losing

theorem agrees_mismatched (late : p = .finishing ∨ p = .awaiting none) (losing : Losing more) :
    Agrees p [] .gone more := by
  rcases late with finishing | awaiting
  · exact .broken p [] more (.inr (.inl finishing)) (by simp [Content]) losing
  · exact .broken p [] more (.inr (.inr (.inl awaiting))) (by simp [Content]) losing

theorem losing_nil : Losing [] := by simp [Losing]

theorem losing_abort : Losing [.ack false] := by simp [Losing]

theorem agrees_receive {w : List Signal} {r' : RecvPhase}
    {out : List Reply} {input : Option Signal} (agrees : Agrees p w r replies)
    (taken : w = input.toList ++ q) (move : RecvMove input r out r') :
    Agrees p q r' (replies ++ out) := by
  cases move with
  | stay =>
    subst taken
    simpa using agrees
  | refused =>
    cases incoming agrees taken with
    | offer early last =>
      subst last
      exact .rejected p early
    | late _ _ isContent => simp at isContent
  | asked =>
    cases incoming agrees taken with
    | offer early last =>
      subst last
      exact .asked p early
  | stored =>
    cases incoming agrees taken with
    | data stream =>
      rcases stream with ⟨rfl | rfl, data⟩ | ⟨late, closing⟩
      · exact .streaming q data
      · exact .abandoned q data
      · exact .closing p q late closing
  | aborted =>
    cases incoming agrees taken with
    | data stream => exact agrees_dropped stream losing_abort
  | verified =>
    cases incoming agrees taken with
    | done late last =>
      subst last
      exact .acknowledged p .winning late (.inl rfl)
  | mismatched =>
    cases incoming agrees taken with
    | done late last =>
      subst last
      exact agrees_mismatched late losing_abort
  | unread =>
    cases incoming agrees taken with
    | done late last =>
      subst last
      exact agrees_mismatched late losing_nil
  | unknown f _ _ notOffer notLive errors =>
    cases incoming agrees taken with
    | offer => exact absurd rfl notOffer
    | data | done => exact absurd rfl notLive
    | late _ _ _ agrees => exact agrees out (fun x member => .inr (errors x member))
  | errored =>
    cases incoming agrees taken with
    | late _ _ isContent => simp at isContent
  | declined =>
    cases agrees with
    | asked p early =>
      cases taken
      exact .rejected p early
    | acknowledged _ _ _ verified | told _ verified | completed _ verified => simp at verified
  | unopened =>
    cases agrees with
    | asked p early =>
      cases taken
      exact .unanswered p early
    | acknowledged _ _ _ verified | told _ verified | completed _ verified => simp at verified
  | accepted =>
    cases agrees with
    | asked p early =>
      cases taken
      exact .accepted p early
    | acknowledged _ _ _ verified | told _ verified | completed _ verified => simp at verified
  | unfinished =>
    cases agrees with
    | acknowledged p _ late =>
      cases taken
      exact .acknowledged p .gone late (.inr rfl)
    | told =>
      cases taken
      exact .told .gone (.inr rfl)
    | completed =>
      cases taken
      exact .completed .gone (.inr rfl)

inductive Answered (p : SendPhase) (q : List Signal) (r : RecvPhase) (replies : List Reply) :
    Reply → Prop
  | reject (early : p = .offering ∨ p = .waiting) (dropped : Agrees p q r replies)
      (rejected : Agrees .over q r replies) : Answered p q r replies .reject
  | accept (early : p = .offering ∨ p = .waiting) (accepted : Agrees .streaming q r replies) :
      Answered p q r replies .accept
  | success (late : p = .finishing ∨ p = .awaiting none)
      (told : Agrees (.awaiting (some true)) q r replies) : Answered p q r replies (.ack true)
  | loss (x : Reply) (isLoss : x = .ack false ∨ x = .error) (dropped : Agrees p q r replies)
      (ended : Agrees .over q r replies) (told : Agrees (.awaiting (some false)) q r replies) :
      Answered p q r replies x

theorem answered {x : Reply} {w : List Reply} (agrees : Agrees p q r w) (first : w = x :: replies) :
    Answered p q r replies x := by
  cases agrees with
  | rejected p early =>
    cases first
    exact .reject early (.unanswered p early) .turnedDown
  | accepted _ early =>
    cases first
    exact .accept early (.streaming [] (by simp [Data]))
  | acknowledged _ r late verified =>
    cases first
    exact .success late (.told r verified)
  | broken p q _ phase content losing =>
    subst first
    exact .loss x (losing x mem_cons_self) (.broken p q replies phase content losing.tail)
      (.broken .over q replies (by simp) content losing.tail)
      (.broken (.awaiting (some false)) q replies (by simp) content losing.tail)
  | absent | offered | unanswered | asked | streaming | closing | told | completed | abandoned
  | turnedDown => cases first

theorem agrees_own {p' : SendPhase} {signals : List Signal} (agrees : Agrees p q r replies)
    (move : SendMove none p signals p') : Agrees p' (q ++ signals) r replies := by
  cases move with
  | stay => simpa using agrees
  | offer =>
    cases agrees with
    | absent => exact .offered .offering (.inl rfl)
    | _ => simp_all
  | offerSent =>
    cases agrees with
    | offered => exact .offered .waiting (.inr rfl)
    | unanswered => exact .unanswered .waiting (.inr rfl)
    | rejected => exact .rejected .waiting (.inr rfl)
    | asked => exact .asked .waiting (.inr rfl)
    | accepted => exact .accepted .waiting (.inr rfl)
    | _ => simp_all
  | data =>
    cases agrees with
    | streaming _ data => exact .streaming _ (data_concat data)
    | broken _ _ replies phase content losing =>
      exact .broken .streaming _ replies phase (content_concat content (.inl rfl)) losing
    | _ => simp_all
  | done =>
    cases agrees with
    | streaming q data => exact .closing .finishing _ (.inl rfl) ⟨q, data, rfl⟩
    | broken _ _ replies _ content losing =>
      exact .broken .finishing _ replies (by simp) (content_concat content (.inr rfl)) losing
    | _ => simp_all
  | giveUp =>
    cases agrees with
    | streaming q data => simpa using Agrees.abandoned q data
    | broken _ q replies _ content losing =>
      simpa using Agrees.broken .over q replies (by simp) content losing
    | _ => simp_all
  | doneSent =>
    cases agrees with
    | closing _ q _ closing => simpa using Agrees.closing (.awaiting none) q (.inr rfl) closing
    | acknowledged _ r _ verified => exact .acknowledged (.awaiting none) r (.inr rfl) verified
    | broken _ q replies _ content losing =>
      simpa using Agrees.broken (.awaiting none) q replies (by simp) content losing
    | _ => simp_all
  | resolve success =>
    cases agrees with
    | told r verified => exact .completed r verified
    | broken _ q replies phase content losing =>
      have failed : success = false := by simpa using phase
      subst failed
      simpa using Agrees.broken .over q replies (by simp) content losing
    | _ => simp_all

/-- Unless the sender reads an accept while sending the offer, or a success while sending done. -/
theorem agrees_send {p' : SendPhase} {signals : List Signal}
    {w : List Reply} {input : Option Reply} (agrees : Agrees p q r w)
    (taken : w = input.toList ++ replies) (move : SendMove input p signals p')
    (offerNoted : input = some .accept → p ≠ .offering)
    (doneNoted : input = some (.ack true) → p ≠ .finishing) :
    Agrees p' (q ++ signals) r replies := by
  cases input with
  | none =>
    rw [Option.toList_none, nil_append] at taken
    exact agrees_own (taken ▸ agrees) move
  | some x =>
    cases answered agrees taken with
    | reject _ dropped rejected =>
      cases move with
      | rejected => simpa using rejected
      | rejectDropped => simpa using dropped
    | accept early accepted =>
      cases move with
      | accepted => simpa using accepted
      | unknown _ _ notWaiting =>
        rcases early with offering | waiting
        · exact absurd offering (offerNoted rfl)
        · exact absurd waiting notWaiting
    | success late told =>
      cases move with
      | acked => simpa using told
      | ackDropped _ _ notAwaiting =>
        rcases late with finishing | awaiting
        · exact absurd finishing (doneNoted rfl)
        · exact absurd awaiting (notAwaiting none)
    | loss _ isLoss dropped ended told =>
      cases move with
      | accepted | unknown | rejected | rejectDropped => simp at isLoss
      | acked _ success =>
        have failed : success = false := by simpa using isLoss
        subst failed
        simpa using told
      | ackDropped | errorDropped => simpa using dropped
      | aborted | failed => simpa using ended

theorem agrees_winning (agrees : Agrees p q .winning replies) :
    p = .completed ∨ p = .awaiting (some true) ∨
      (p = .finishing ∨ p = .awaiting none) ∧ replies = [.ack true] := by
  cases agrees with
  | acknowledged _ _ late => exact .inr (.inr ⟨late, rfl⟩)
  | told => exact .inr (.inl rfl)
  | completed => exact .inl rfl

theorem agrees_accept
    (agrees : Agrees p q r (.accept :: replies)) : p = .offering ∨ p = .waiting := by
  cases answered agrees rfl with
  | accept early => exact early
  | loss _ isLoss => simp at isLoss

theorem agrees_offer (agrees : Agrees p (.offer :: q) r replies) : r = .fresh := by
  cases incoming agrees rfl with
  | offer => rfl
  | late _ _ isContent => simp at isContent

theorem agrees_absent (agrees : Agrees .absent q r replies) : replies = [] := by
  cases agrees with
  | absent => rfl
  | _ => simp_all

end Peerc.Transfer
