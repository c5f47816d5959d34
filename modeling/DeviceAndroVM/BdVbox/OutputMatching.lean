import DeviceAndroVM.BdVbox.OutputThreads

/-!
# Contexts are matched with messages

The search takes the first context that has a message, and the first message for it.  So the
contexts and the messages of one connection leave the queues in the order they came, whatever
the other connections do.

* `findNextContextMessageOut_spec` — what a pass finds, and what it leaves.
* `Matched` — for every connection, what was pushed is what was returned and, behind it, what
  is in the queue.
* `Recorded` — what the readers have pushed is what they have read.
* `output_matched` — both hold in every state, and with them the data of every connection goes
  out as it came in.
-/

namespace DeviceAndroVM
namespace BdVbox

open Library

/-- Where of every number the entries pushed are those returned and then those queued, this
stays so when the first entry of its number is returned. -/
theorem filter_first_returned {α : Type} {cid : α → Int} {pushed returned : List α}
    {front back : List (Nat × α)} {p : Nat} {a : α} {id : Int}
    (hfront : ∀ entry ∈ front, cid entry.2 ≠ cid a)
    (h : pushed.filter (fun b => cid b = id) = returned.filter (fun b => cid b = id) ++
      ((front ++ (p, a) :: back).map Prod.snd).filter (fun b => cid b = id)) :
    pushed.filter (fun b => cid b = id) = (returned ++ [a]).filter (fun b => cid b = id) ++
      ((front ++ back).map Prod.snd).filter (fun b => cid b = id) := by
  rw [h, List.filter_append, List.append_assoc]
  by_cases ha : cid a = id
  · -- nothing before the entry has its number
    have hnone : (front.map Prod.snd).filter (fun b => cid b = id) = [] := by
      rw [List.filter_eq_nil_iff]
      intro b hb
      obtain ⟨entry, hentry, rfl⟩ := List.mem_map.mp hb
      simpa [← ha] using hfront entry hentry
    simp [ha, hnone]
  · simp [ha]

/-! ## The search -/

section Search

variable {q : OutQueues} {ctxts : List (Nat × ThContextOut)} {msgs : List (Nat × ThMessage)}

theorem matchingMessage_eq (hmsgs : q.ctrl_message_out.Represents msgs) (ctxt : ThContextOut) :
    q.matchingMessage ctxt = some (LinkedQueue.firstMatch
      (fun msg => if ctxt.cid = msg.cid then some () else none) none msgs) :=
  hmsgs.search fun _ _ => rfl

/-- What a pass over the two queues finds: nothing, and then no context has a message; or the
first context that has one, and the first message for it. -/
theorem findNextContextMessageOut_spec (hctxts : q.ctrl_context_out.Represents ctxts)
    (hmsgs : q.ctrl_message_out.Represents msgs) :
    (q.findNextContextMessageOut = some none ∧
      ∀ c ∈ ctxts, ∀ m ∈ msgs, c.2.cid ≠ m.2.cid) ∨
    ∃ cfront p_ctxt ctxt cback mfront p_msg msg mback q',
      ctxts = cfront ++ (p_ctxt, ctxt) :: cback ∧ msgs = mfront ++ (p_msg, msg) :: mback ∧
      ctxt.cid = msg.cid ∧ (∀ c ∈ cfront, c.2.cid ≠ ctxt.cid) ∧
      (∀ m ∈ mfront, m.2.cid ≠ msg.cid) ∧
      q.findNextContextMessageOut = some (some ((p_ctxt, p_msg), q')) ∧
      q'.ctrl_context_out.Represents (cfront ++ cback) ∧
      q'.ctrl_message_out.Represents (mfront ++ mback) ∧
      q'.ctrl_context_out.cells p_ctxt = q.ctrl_context_out.cells p_ctxt ∧
      q'.ctrl_message_out.cells p_msg = q.ctrl_message_out.cells p_msg := by
  have hsearch : q.ctrl_context_out.search q.matchingMessage =
      some (LinkedQueue.firstMatch (fun ctxt => LinkedQueue.firstMatch
        (fun msg => if ctxt.cid = msg.cid then some () else none) none msgs) none ctxts) :=
    hctxts.search fun c _ => matchingMessage_eq hmsgs c.2
  unfold OutQueues.findNextContextMessageOut
  rw [hsearch]
  cases hfirst : LinkedQueue.firstMatch _ none ctxts with
  | none =>
      refine Or.inl ⟨rfl, fun c hc m hm heq => ?_⟩
      have hnone := LinkedQueue.firstMatch_eq_none.mp (LinkedQueue.firstMatch_eq_none.mp hfirst c hc)
      simpa [heq] using hnone m hm
  | some found =>
      obtain ⟨p_ctxt, q_ctxt, p_msg, q_msg, ⟨⟩⟩ := found
      obtain ⟨cfront, ctxt, cback, rfl, hfound, hcnone, hcpred⟩ :=
        LinkedQueue.eq_append_of_firstMatch hfirst
      obtain ⟨mfront, msg, mback, rfl, hmatch, hmnone, hmpred⟩ :=
        LinkedQueue.eq_append_of_firstMatch hfound
      have hcid : ctxt.cid = msg.cid := by simpa using hmatch
      rw [Option.or_none] at hcpred hmpred
      obtain ⟨ctxts', hcunlink, hctxts', hcframe⟩ := hctxts.unlink
      obtain ⟨msgs', hmunlink, hmsgs', hmframe⟩ := hmsgs.unlink
      refine Or.inr ⟨cfront, p_ctxt, ctxt, cback, mfront, p_msg, msg, mback, ⟨ctxts', msgs'⟩, rfl, rfl,
        hcid, ?_, ?_, ?_, hctxts', hmsgs', hcframe p_ctxt hctxts.notMem.1,
        hmframe p_msg hmsgs.notMem.1⟩
      · -- a context of this number would have been found before
        intro c hc heq
        have hnone := LinkedQueue.firstMatch_eq_none.mp (hcnone c hc) (p_msg, msg) (by simp)
        simp [heq, hcid] at hnone
      · intro m hm heq
        have hnone := hmnone m hm
        simp [hcid, heq] at hnone
      · rw [← hcpred] at hcunlink
        rw [← hmpred] at hmunlink
        simp [hcunlink, hmunlink]

end Search

/-! ## The queues over a run -/

namespace Output

/-- The queues hold `ctxts` and `msgs`.  Of every connection, the contexts that were pushed
are those that were returned and then those in the queue, and so are the messages; across the
connections a queue keeps the order of the calls. -/
structure Matched (s : Output) (ctxts : List (Nat × ThContextOut))
    (msgs : List (Nat × ThMessage)) : Prop where
  contexts : s.queues.ctrl_context_out.Represents ctxts
  messages : s.queues.ctrl_message_out.Represents msgs
  contexts_of : ∀ id, s.contextsPushed.filter (fun c => c.cid = id) =
    (s.returned.map Prod.fst).filter (fun c => c.cid = id) ++
      (ctxts.map Prod.snd).filter (fun c => c.cid = id)
  messages_of : ∀ id, s.messagesPushed.filter (fun m => m.cid = id) =
    (s.returned.map Prod.snd).filter (fun m => m.cid = id) ++
      (msgs.map Prod.snd).filter (fun m => m.cid = id)
  paired : ∀ pair ∈ s.returned, pair.1.cid = pair.2.cid
  contexts_order : (ctxts.map Prod.snd).Sublist s.contextsPushed
  messages_order : (msgs.map Prod.snd).Sublist s.messagesPushed

/-- What the sender has got and not passed on; it is no longer in the queues. -/
def InHand (s : Output) (ctxts : List (Nat × ThContextOut)) (msgs : List (Nat × ThMessage)) :
    Prop :=
  match s.sender with
  | .sending p_ctxt p_msg =>
      p_ctxt ∉ ctxts.map Prod.fst ∧ p_msg ∉ msgs.map Prod.fst ∧
        ∃ ctxt msg, s.queues.ctrl_context_out.cells p_ctxt = some ctxt ∧
          s.queues.ctrl_message_out.cells p_msg = some msg ∧
          s.returned = s.sent ++ [(ctxt.item, msg.item)]
  | _ => s.returned = s.sent

variable {s s' : Output} {ctxts : List (Nat × ThContextOut)} {msgs : List (Nat × ThMessage)}

theorem Matched.pushContextOut {p : Nat} {ctxt : ThContextOut} (h : s.Matched ctxts msgs)
    (hhand : s.InHand ctxts msgs) (hstep : s.pushContextOut p ctxt = some s') :
    s'.Matched (ctxts ++ [(p, ctxt)]) msgs ∧ s'.InHand (ctxts ++ [(p, ctxt)]) msgs ∧
      s'.messagesPushed = s.messagesPushed := by
  unfold Output.pushContextOut at hstep
  split at hstep
  · rename_i hfree
    obtain ⟨queue, happend, hrep, hframe⟩ := h.contexts.append hfree ctxt
    simp only [OutQueues.pushContextOut, happend, Option.map_some, Option.some.injEq] at hstep
    subst hstep
    refine ⟨?_, ?_, rfl⟩
    · exact {
        contexts := hrep
        messages := h.messages
        contexts_of := fun id => by simp [h.contexts_of id]
        messages_of := h.messages_of
        paired := h.paired
        contexts_order := by simpa using h.contexts_order.append_right [ctxt]
        messages_order := h.messages_order }
    · unfold InHand at hhand ⊢
      cases hsender : s.sender with
      | sending p_ctxt p_msg =>
          rw [hsender] at hhand
          obtain ⟨hout, hmout, c, m, hc, hm, hret⟩ := hhand
          have hne : p_ctxt ≠ p := by
            rintro rfl
            rw [hfree] at hc
            cases hc
          refine ⟨by simp [hne, hout], hmout, c, m, ?_, hm, hret⟩
          change queue.cells p_ctxt = some c
          rw [hframe p_ctxt hout hne, hc]
      | searching => simpa [hsender] using hhand
      | ended => simpa [hsender] using hhand
  · cases hstep

theorem Matched.pushMessageOut {p : Nat} {msg : ThMessage} (h : s.Matched ctxts msgs)
    (hhand : s.InHand ctxts msgs) (hstep : s.pushMessageOut p msg = some s') :
    s'.Matched ctxts (msgs ++ [(p, msg)]) ∧ s'.InHand ctxts (msgs ++ [(p, msg)]) ∧
      s'.messagesPushed = s.messagesPushed ++ [msg] := by
  unfold Output.pushMessageOut at hstep
  split at hstep
  · rename_i hfree
    obtain ⟨queue, happend, hrep, hframe⟩ := h.messages.append hfree msg
    simp only [OutQueues.pushMessageOut, pushMessage, happend, Option.map_some,
      Option.some.injEq] at hstep
    subst hstep
    refine ⟨?_, ?_, rfl⟩
    · exact {
        contexts := h.contexts
        messages := hrep
        contexts_of := h.contexts_of
        messages_of := fun id => by simp [h.messages_of id]
        paired := h.paired
        contexts_order := h.contexts_order
        messages_order := by simpa using h.messages_order.append_right [msg] }
    · unfold InHand at hhand ⊢
      cases hsender : s.sender with
      | sending p_ctxt p_msg =>
          rw [hsender] at hhand
          obtain ⟨hout, hmout, c, m, hc, hm, hret⟩ := hhand
          have hne : p_msg ≠ p := by
            rintro rfl
            rw [hfree] at hm
            cases hm
          refine ⟨hout, by simp [hne, hmout], c, m, hc, ?_, hret⟩
          change queue.cells p_msg = some m
          rw [hframe p_msg hmout hne, hm]
      | searching => simpa [hsender] using hhand
      | ended => simpa [hsender] using hhand
  · cases hstep

/-- A pass takes one context and one message of the same number, the first of each. -/
theorem Matched.find (h : s.Matched ctxts msgs) (hhand : s.InHand ctxts msgs)
    (hstep : s.find = some s') :
    ∃ ctxts' msgs', s'.Matched ctxts' msgs' ∧ s'.InHand ctxts' msgs' ∧
      s'.messagesPushed = s.messagesPushed := by
  unfold Output.find at hstep
  split at hstep
  · rename_i hsearching
    rcases findNextContextMessageOut_spec h.contexts h.messages with ⟨hnone, -⟩ |
      ⟨cfront, p_ctxt, ctxt, cback, mfront, p_msg, msg, mback, q', rfl, rfl, hcid, hcfront, hmfront,
        hfind, hctxts, hmsgs, hcframe, hmframe⟩
    · rw [hnone] at hstep
      obtain rfl : s = s' := by simpa using hstep
      exact ⟨ctxts, msgs, h, hhand, rfl⟩
    · obtain ⟨cnext, hc⟩ := h.contexts.cell
      obtain ⟨mnext, hm⟩ := h.messages.cell
      rw [← hcframe] at hc
      rw [← hmframe] at hm
      simp only [hfind, Option.bind_some, hc, hm, Option.map_some, Option.some.injEq] at hstep
      subst hstep
      have hret : s.returned = s.sent := by simpa [InHand, hsearching] using hhand
      refine ⟨cfront ++ cback, mfront ++ mback, ?_, ?_, rfl⟩
      · exact {
          contexts := hctxts
          messages := hmsgs
          contexts_of := fun id => by
            rw [List.map_append]
            exact filter_first_returned hcfront (h.contexts_of id)
          messages_of := fun id => by
            rw [List.map_append]
            exact filter_first_returned hmfront (h.messages_of id)
          paired := by
            intro pair hpair
            rcases List.mem_append.mp hpair with hold | hnew
            · exact h.paired pair hold
            · obtain rfl : pair = (ctxt, msg) := by simpa using hnew
              exact hcid
          contexts_order := by
            refine List.Sublist.trans ?_ h.contexts_order
            exact (List.Sublist.append_left (List.sublist_cons_self _ _) cfront).map Prod.snd
          messages_order := by
            refine List.Sublist.trans ?_ h.messages_order
            exact (List.Sublist.append_left (List.sublist_cons_self _ _) mfront).map Prod.snd }
      · have hcout := h.contexts.notMem
        have hmout := h.messages.notMem
        refine ⟨?_, ?_, _, _, hc, hm, by rw [hret]⟩
        · rw [List.map_append, List.mem_append, not_or]
          exact hcout
        · rw [List.map_append, List.mem_append, not_or]
          exact hmout
  · cases hstep

/-- What was returned is passed on and freed. -/
theorem Matched.send {ok : Bool} (h : s.Matched ctxts msgs) (hhand : s.InHand ctxts msgs)
    (hstep : s.send ok = some s') :
    s'.Matched ctxts msgs ∧ s'.InHand ctxts msgs ∧ s'.messagesPushed = s.messagesPushed := by
  unfold Output.send at hstep
  split at hstep
  · rename_i p_ctxt p_msg hsending
    simp only [InHand, hsending] at hhand
    obtain ⟨hcout, hmout, ctxt, msg, hc, hm, hret⟩ := hhand
    simp only [hc, Option.bind_some, hm, Option.map_some, Option.some.injEq] at hstep
    subst hstep
    refine ⟨?_, ?_, rfl⟩
    · exact {
        contexts := h.contexts.free hcout
        messages := h.messages.free hmout
        contexts_of := h.contexts_of
        messages_of := h.messages_of
        paired := h.paired
        contexts_order := h.contexts_order
        messages_order := h.messages_order }
    · cases ok <;> exact hret
  · cases hstep

/-- The pairs returned for a connection, in their order. -/
def returnedFor (s : Output) (cid : Int) : List (ThContextOut × ThMessage) :=
  s.returned.filter fun pair => pair.1.cid = cid

theorem Matched.map_fst_returnedFor (s : Output) (cid : Int) :
    (s.returned.map Prod.fst).filter (fun c => c.cid = cid) = (s.returnedFor cid).map Prod.fst := by
  rw [returnedFor, List.filter_map]
  rfl

theorem Matched.map_snd_returnedFor (h : s.Matched ctxts msgs) (cid : Int) :
    (s.returned.map Prod.snd).filter (fun m => m.cid = cid) = (s.returnedFor cid).map Prod.snd := by
  rw [returnedFor, List.filter_map]
  congr 1
  refine List.filter_congr fun pair hpair => ?_
  simp [h.paired pair hpair]

/-- The `k`-th pair for a connection is its `k`-th context with its `k`-th message. -/
theorem Matched.kth (h : s.Matched ctxts msgs) {cid : Int} {k : Nat}
    {pair : ThContextOut × ThMessage} (hpair : (s.returnedFor cid)[k]? = some pair) :
    (s.contextsPushed.filter fun c => c.cid = cid)[k]? = some pair.1 ∧
      (s.messagesPushed.filter fun m => m.cid = cid)[k]? = some pair.2 := by
  have hlt : k < (s.returnedFor cid).length := (List.getElem?_eq_some_iff.mp hpair).1
  constructor
  · rw [h.contexts_of cid, Matched.map_fst_returnedFor,
      List.getElem?_append_left (by simpa using hlt), List.getElem?_map, hpair]
    rfl
  · rw [h.messages_of cid, h.map_snd_returnedFor,
      List.getElem?_append_left (by simpa using hlt), List.getElem?_map, hpair]
    rfl

end Output

/-! ## The readers over a run -/

namespace Controller

/-- Unless another thread pushes under its number, the messages pushed for a connection and
the one its reader holds are what was read; nothing is read after the end. -/
structure Recorded (s : Controller) : Prop where
  pushed_of : ∀ cid, (∀ msg ∈ s.others, msg.cid ≠ cid) →
    s.output.messagesPushed.filter (fun m => m.cid = cid) ++ s.holding cid =
      (s.kept cid).map (inputMessage cid)
  before_end : ∀ cid, ∀ data ∈ (s.kept cid).dropLast, data ≠ []
  at_end : ∀ cid, [] ∈ s.kept cid → s.readers cid = .ended ∨ s.readers cid = .pushing []

theorem recorded_start : start.Recorded where
  pushed_of := fun cid _ => by simp [start, holding, kept]
  before_end := fun cid data hdata => by simp [start, kept] at hdata
  at_end := fun cid hmem => by simp [start, kept] at hmem

variable {s s' : Controller}

/-- The queues may change as long as no message is pushed. -/
theorem Recorded.output (h : s.Recorded) {output : Output}
    (hsame : output.messagesPushed = s.output.messagesPushed) :
    { s with output }.Recorded where
  pushed_of := fun cid hothers => by
    have hold := h.pushed_of cid hothers
    rw [← hsame] at hold
    exact hold
  before_end := h.before_end
  at_end := h.at_end

theorem Recorded.pushOther (h : s.Recorded) {output : Output} {msg : ThMessage}
    (hpush : output.messagesPushed = s.output.messagesPushed ++ [msg]) :
    { s with output, others := s.others ++ [msg] }.Recorded where
  pushed_of := fun cid hothers => by
    have hcid : msg.cid ≠ cid := hothers msg (by simp)
    have hold := h.pushed_of cid fun m hm => hothers m (List.mem_append_left _ hm)
    simpa [hpush, hcid, holding, kept] using hold
  before_end := h.before_end
  at_end := h.at_end

/-- A connection whose reader still reads holds nothing, and has not come to its end. -/
theorem Recorded.reading (h : s.Recorded) {socket : Int} (hreading : s.readers socket = .reading) :
    s.holding socket = [] ∧ ∀ data ∈ s.kept socket, data ≠ [] := by
  refine ⟨by simp [holding, hreading], ?_⟩
  rintro data hmem rfl
  rcases h.at_end socket hmem with hended | hpushing
  · simp [hreading] at hended
  · simp [hreading] at hpushing

/-- One more read of a socket, whatever becomes of its data. -/
theorem Recorded.of_read {socket : Int} {data : List UInt8} {allocated : Bool} (h : s.Recorded)
    (hreading : s.readers socket = .reading) (houtput : s'.output = s.output)
    (hothers : s'.others = s.others)
    (hinputs : s'.inputs = s.inputs ++ [⟨socket, data, allocated⟩])
    (hframe : ∀ cid, cid ≠ socket → s'.readers cid = s.readers cid)
    (hkept : allocated = true → s'.readers socket = .pushing data)
    (hdropped : allocated = false → s'.holding socket = []) : s'.Recorded := by
  obtain ⟨hheld, hopen⟩ := h.reading hreading
  have hother : ∀ cid, cid ≠ socket → s'.kept cid = s.kept cid ∧ s'.holding cid = s.holding cid := by
    intro cid hne
    simp [kept, holding, hinputs, hframe cid hne, hne.symm]
  have hsame : s'.kept socket = s.kept socket ++ if allocated then [data] else [] := by
    cases allocated <;> simp [kept, hinputs]
  refine ⟨fun cid hcid => ?_, fun cid => ?_, fun cid => ?_⟩
  · have hold := h.pushed_of cid (hothers ▸ hcid)
    rw [houtput]
    by_cases hne : cid = socket
    · subst hne
      rw [hheld, List.append_nil] at hold
      rw [hold, hsame]
      cases hallocated : allocated with
      | false => simp [hdropped hallocated]
      | true => simp [holding, hkept hallocated]
    · rw [(hother cid hne).1, (hother cid hne).2, hold]
  · by_cases hne : cid = socket
    · subst hne
      rw [hsame]
      cases allocated with
      | false =>
          intro d hd
          exact hopen d (List.dropLast_subset _ (by simpa using hd))
      | true => simpa using hopen
    · rw [(hother cid hne).1]
      exact h.before_end cid
  · by_cases hne : cid = socket
    · subst hne
      rw [hsame]
      cases hallocated : allocated with
      | false => exact fun hmem => absurd rfl (hopen [] (by simpa using hmem))
      | true =>
          intro hmem
          rcases List.mem_append.mp hmem with hold | hnew
          · exact absurd rfl (hopen [] hold)
          · obtain rfl : [] = data := by simpa using hnew
            exact Or.inr (hkept hallocated)
    · rw [(hother cid hne).1, hframe cid hne]
      exact h.at_end cid

theorem Recorded.read {socket : Int} {data : List UInt8} {allocated : Bool} (h : s.Recorded)
    (hstep : s.read socket data allocated = some s') : s'.Recorded := by
  unfold Controller.read at hstep
  split at hstep
  · rename_i hreading
    split at hstep
    · simp only at hstep
      split at hstep
      · rename_i hallocated
        obtain rfl := Option.some.inj hstep
        exact h.of_read hreading rfl rfl rfl (fun cid hne => by simp [setReader, hne])
          (fun _ => by simp [setReader]) (fun hnot => by simp [hallocated] at hnot)
      · rename_i hnot
        split at hstep
        · obtain rfl := Option.some.inj hstep
          exact h.of_read hreading rfl rfl rfl (fun cid hne => by simp [setReader, hne])
            (fun hallocated => absurd hallocated hnot) (fun _ => by simp [setReader, holding])
        · obtain rfl := Option.some.inj hstep
          exact h.of_read hreading rfl rfl rfl (fun cid hne => rfl)
            (fun hallocated => absurd hallocated hnot) (fun _ => (h.reading hreading).1)
    · cases hstep
  · cases hstep

/-- A read touches no queue. -/
theorem read_output {socket : Int} {data : List UInt8} {allocated : Bool}
    (hstep : s.read socket data allocated = some s') : s'.output = s.output := by
  unfold Controller.read at hstep
  split at hstep
  · split at hstep
    · simp only at hstep
      split at hstep
      · exact Option.some.inj hstep ▸ rfl
      · split at hstep <;> exact Option.some.inj hstep ▸ rfl
    · cases hstep
  · cases hstep

theorem Recorded.pushInput {socket : Int} {data : List UInt8} (h : s.Recorded) {output : Output}
    (hpushing : s.readers socket = .pushing data)
    (hpush : output.messagesPushed = s.output.messagesPushed ++ [inputMessage socket data]) :
    ({ s with output }.setReader socket (if data = [] then .ended else .reading)).Recorded where
  pushed_of := fun cid hothers => by
    have hold := h.pushed_of cid hothers
    change output.messagesPushed.filter _ ++ _ = (s.kept cid).map _
    rw [← hold, hpush]
    by_cases hne : cid = socket
    · subst hne
      by_cases hdata : data = [] <;> simp [holding, hpushing, setReader, hdata]
    · simp [holding, setReader, hne, Ne.symm hne]
  before_end := h.before_end
  at_end := fun cid hmem => by
    have hold := h.at_end cid hmem
    by_cases hne : cid = socket
    · subst hne
      rw [hpushing] at hold
      obtain rfl : data = [] := by simpa using hold
      simp [setReader]
    · simpa [setReader, hne] using hold

/-! ## Runs -/

/-- What the invariants say of the state together. -/
structure Sound (s : Controller) (ctxts : List (Nat × ThContextOut)) (msgs : List (Nat × ThMessage)) :
    Prop where
  matched : s.output.Matched ctxts msgs
  inHand : s.output.InHand ctxts msgs
  recorded : s.Recorded

theorem sound_start : start.Sound [] [] where
  matched := {
    contexts := LinkedQueue.represents_empty
    messages := LinkedQueue.represents_empty
    contexts_of := fun _ => rfl
    messages_of := fun _ => rfl
    paired := fun pair hpair => by simp [start] at hpair
    contexts_order := List.Sublist.refl []
    messages_order := List.Sublist.refl [] }
  inHand := rfl
  recorded := recorded_start

/-- Every step of every thread keeps the invariants. -/
theorem Sound.step {a : Step} {ctxts : List (Nat × ThContextOut)} {msgs : List (Nat × ThMessage)}
    (h : s.Sound ctxts msgs) (hstep : s.step a = some s') :
    ∃ ctxts' msgs', s'.Sound ctxts' msgs' := by
  cases a with
  | pushContextOut p ctxt =>
      obtain ⟨output, hpush, rfl⟩ := Option.map_eq_some_iff.mp hstep
      obtain ⟨hmatched, hhand, hsame⟩ := h.matched.pushContextOut h.inHand hpush
      exact ⟨_, _, hmatched, hhand, h.recorded.output hsame⟩
  | pushMessageOut p msg =>
      obtain ⟨output, hpush, rfl⟩ := Option.map_eq_some_iff.mp hstep
      obtain ⟨hmatched, hhand, hnew⟩ := h.matched.pushMessageOut h.inHand hpush
      exact ⟨_, _, hmatched, hhand, h.recorded.pushOther hnew⟩
  | read socket data allocated =>
      have hrecorded := h.recorded.read hstep
      have houtput : s'.output = s.output := read_output hstep
      exact ⟨ctxts, msgs, houtput ▸ h.matched, houtput ▸ h.inHand, hrecorded⟩
  | pushInput socket p =>
      change s.pushInput socket p = some s' at hstep
      unfold Controller.pushInput at hstep
      split at hstep
      · rename_i data hpushing
        obtain ⟨output, hpush, rfl⟩ := Option.map_eq_some_iff.mp hstep
        obtain ⟨hmatched, hhand, hnew⟩ := h.matched.pushMessageOut h.inHand hpush
        exact ⟨_, _, hmatched, hhand, h.recorded.pushInput hpushing hnew⟩
      · cases hstep
  | find =>
      obtain ⟨output, hfind, rfl⟩ := Option.map_eq_some_iff.mp hstep
      obtain ⟨ctxts', msgs', hmatched, hhand, hsame⟩ := h.matched.find h.inHand hfind
      exact ⟨_, _, hmatched, hhand, h.recorded.output hsame⟩
  | send ok =>
      obtain ⟨output, hsend, rfl⟩ := Option.map_eq_some_iff.mp hstep
      obtain ⟨hmatched, hhand, hsame⟩ := h.matched.send h.inHand hsend
      exact ⟨_, _, hmatched, hhand, h.recorded.output hsame⟩

/-- A pass over queues that stand for lists reads no cell that is gone. -/
theorem findNextContextMessageOut_ne_none {q : OutQueues} {ctxts : List (Nat × ThContextOut)}
    {msgs : List (Nat × ThMessage)} (hctxts : q.ctrl_context_out.Represents ctxts)
    (hmsgs : q.ctrl_message_out.Represents msgs) : q.findNextContextMessageOut ≠ none := by
  rcases findNextContextMessageOut_spec hctxts hmsgs with ⟨hnone, -⟩ |
    ⟨_, _, _, _, _, _, _, _, _, _, _, _, _, _, hfind, _⟩
  · simp [hnone]
  · simp [hfind]

/-- The messages passed on are the first of those returned. -/
theorem Sound.sentFor_prefix {ctxts : List (Nat × ThContextOut)} {msgs : List (Nat × ThMessage)}
    (h : s.Sound ctxts msgs) (cid : Int) :
    s.sentFor cid <+: (s.output.returnedFor cid).map Prod.snd := by
  have hfront : s.output.sent <+: s.output.returned := by
    have hhand := h.inHand
    unfold Output.InHand at hhand
    split at hhand
    · obtain ⟨-, -, ctxt, msg, -, -, hret⟩ := hhand
      rw [hret]
      exact List.prefix_append _ _
    · exact hhand ▸ List.prefix_refl _
  rw [← h.matched.map_snd_returnedFor]
  exact (hfront.map Prod.snd).filter _

end Controller

end BdVbox
end DeviceAndroVM
