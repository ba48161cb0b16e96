/-
  FieldLink.Proofs.Mqtt.Registry
  ────────────────────────────────
  **THE LAST SUBSCRIPTION TO A TOPIC IS THE ONE THAT COUNTS.**

  A subscription takes effect before the broker is told, so it counts even
  if the broker cannot be told; the same goes for giving one up.  Nothing
  else touches what is registered for a topic, but the program may change
  the handler in place, and messages of the topic do.  What is registered
  can therefore be read off the history of a run:

      registry_step         — one exchange enrols, withdraws, or changes in place
      registered_concat     — one more exchange in the history
      registry_last_writer  — the registry of every run, and its capacity
-/
import FieldLink.Proofs.Mqtt.Dispatch

namespace FieldLink.Mqtt

/-! ## §1. What an exchange does to a topic. -/

namespace Exchange

variable {η σ : Type} [OctetStream σ] [Dialer σ] [MessageHandler η]

/-- The call took effect: it succeeded, or only the broker could not be told. -/
def TakesEffect (exchange : Exchange η σ) : Prop :=
  exchange.reply = .ok .done ∨ exchange.reply = .error .writeFailed

/-- A subscription to the topic with this handler took effect. -/
def Enrols (exchange : Exchange η σ) (topic : String) (handler : η) : Prop :=
  exchange.operation = .subscribe topic handler ∧ exchange.TakesEffect

/-- The subscription to the topic was given up. -/
def Withdraws (exchange : Exchange η σ) (topic : String) : Prop :=
  exchange.operation = .unsubscribe topic ∧ exchange.TakesEffect

/-- The exchange neither enrols a handler for the topic nor withdraws it. -/
def Spares (exchange : Exchange η σ) (topic : String) : Prop :=
  (∀ handler, ¬ exchange.Enrols topic handler) ∧ ¬ exchange.Withdraws topic

/-- What an exchange does to a handler of the topic that stays: the program changes it in place, or
it gets the messages of the topic. -/
def change (exchange : Exchange η σ) (topic : String) : η → η :=
  match exchange.operation with
  | .adjust other change => if other = topic then change else id
  | .poll .. => MessageHandler.takeAll topic (Traffic.handed exchange.events)
  | _ => id

/-- The handler of a topic before an exchange and after it. -/
inductive Settles (exchange : Exchange η σ) (topic : String) : Prop where
  /-- A handler was enrolled, whatever was there. -/
  | enrolled {handler : η} (henrols : exchange.Enrols topic handler)
      (hafter : exchange.after.client.subscriptions.get? topic = some handler) :
      Settles exchange topic
  /-- The handler was withdrawn, if there was one. -/
  | withdrawn (hwithdraws : exchange.Withdraws topic)
      (hafter : exchange.after.client.subscriptions.get? topic = none) : Settles exchange topic
  /-- The handler stayed, and perhaps it was changed in place. -/
  | kept (hspares : exchange.Spares topic)
      (hafter : exchange.after.client.subscriptions.get? topic
        = (exchange.before.client.subscriptions.get? topic).map (exchange.change topic)) :
      Settles exchange topic

theorem Enrols.inj {exchange : Exchange η σ} {topic : String} {handler handler' : η}
    (h : exchange.Enrols topic handler) (h' : exchange.Enrols topic handler') :
    handler = handler' := by
  have hsame := h.1.symm.trans h'.1
  simp only [Operation.subscribe.injEq, true_and] at hsame
  exact hsame

/-- Only two operations enrol and withdraw. -/
theorem spares_of_operation {exchange : Exchange η σ} {topic : String}
    (hsubscribe : ∀ handler, exchange.operation ≠ .subscribe topic handler)
    (hunsubscribe : exchange.operation ≠ .unsubscribe topic) : exchange.Spares topic :=
  ⟨fun handler henrols => hsubscribe handler henrols.1,
    fun hwithdraws => hunsubscribe hwithdraws.1⟩

/-- A call that was refused has no effect. -/
theorem spares_of_refused {exchange : Exchange η σ} {fault : Fault}
    (hreply : exchange.reply = .error fault) (hfault : fault ≠ .writeFailed) (topic : String) :
    exchange.Spares topic := by
  have hnot : ¬ exchange.TakesEffect := by
    rintro (hdone | hfailed)
    · cases hreply.symm.trans hdone
    · exact hfault (Except.error.inj (hreply.symm.trans hfailed))
  exact ⟨fun handler henrols => hnot henrols.2, fun hwithdraws => hnot hwithdraws.2⟩

/-- The table stays, and handlers do not change in place. -/
theorem settles_of_eq {exchange : Exchange η σ} {topic : String} (hspares : exchange.Spares topic)
    (hchange : exchange.change topic = id)
    (heq : exchange.after.client.subscriptions = exchange.before.client.subscriptions) :
    exchange.Settles topic := by
  refine .kept hspares ?_
  rw [heq, hchange, Option.map_id_fun]
  rfl

/-- A call that was refused changes nothing. -/
theorem settles_of_refused {exchange : Exchange η σ} {fault : Fault}
    (h : exchange.before.apply exchange.operation = (.error fault, exchange.before))
    (hfault : fault ≠ .writeFailed) (topic : String) (hchange : exchange.change topic = id) :
    exchange.Settles topic :=
  settles_of_eq (spares_of_refused (congrArg Prod.fst h) hfault topic) hchange
    (congrArg (·.client.subscriptions) (congrArg Prod.snd h))

end Exchange

/-! ## §2. One exchange. -/

section Steps

variable {η σ : Type}

theorem Session.Sending.subscriptions_eq {packet : Octets} {session : Session η σ}
    {outcome : Except Fault Unit × Session η σ} (h : Session.Sending packet session outcome) :
    outcome.2.client.subscriptions = session.client.subscriptions := by
  cases h <;> rfl

/-- Once there is a packet to send, the call succeeds or the broker could not be told. -/
theorem Session.Sending.result_cases {packet : Octets} {session : Session η σ}
    {outcome : Except Fault Unit × Session η σ} (h : Session.Sending packet session outcome) :
    outcome.1 = .ok () ∨ outcome.1 = .error .writeFailed := by
  cases h with
  | delivered => exact .inl rfl
  | lost => exact .inr rfl

theorem Session.Publishing.subscriptions_eq {topic : String} {payload : Octets} {retain : Bool}
    {now : Nat} {session : Session η σ} {qos : Qos}
    {outcome : Except Fault (Option UInt16) × Session η σ}
    (h : Session.Publishing topic payload retain now session qos outcome) :
    outcome.2.client.subscriptions = session.client.subscriptions := by
  cases h with
  | plain hpacket hsending => exact hsending.subscriptions_eq
  | _ => rfl

variable [OctetStream σ] [Dialer σ] [MessageHandler η]

namespace Exchange

theorem takesEffect_of_sending {exchange : Exchange η σ} {packet : Octets} {session : Session η σ}
    {outcome : Except Fault Unit × Session η σ} (h : Session.Sending packet session outcome)
    (hreply : exchange.reply = outcome.1.map fun _ => .done) : exchange.TakesEffect := by
  rcases h.result_cases with hresult | hresult
  · exact .inl (by rw [hreply, hresult]; rfl)
  · exact .inr (by rw [hreply, hresult]; rfl)

theorem settles_subscribe {exchange : Exchange η σ} {other : String} {handler : η}
    (hoperation : exchange.operation = .subscribe other handler) (topic : String) :
    exchange.Settles topic := by
  obtain ⟨session, operation⟩ := exchange
  obtain rfl : operation = .subscribe other handler := hoperation
  rcases Session.subscribe_cases other handler session with
    ⟨fault, hfault, heq⟩ | ⟨key, table, packet, rfl, -, htable, -, hsending⟩
  · refine settles_of_refused ?_ hfault topic rfl
    show Session.replying _ (session.subscribe other handler) = _
    rw [heq]
    rfl
  · have hafter : (session.subscribe key handler).2.client.subscriptions.get? topic
        = if topic = key then some handler else session.client.subscriptions.get? topic := by
      rw [hsending.subscriptions_eq]
      exact Subscriptions.get?_insert? htable topic
    by_cases htopic : topic = key
    · rw [if_pos htopic] at hafter
      obtain rfl := htopic
      exact .enrolled ⟨rfl, takesEffect_of_sending hsending rfl⟩ hafter
    · rw [if_neg htopic] at hafter
      refine .kept (spares_of_operation ?_ nofun) ?_
      · intro handler' hsame
        exact htopic (Operation.subscribe.inj hsame).1.symm
      · rw [show change (⟨session, .subscribe key handler⟩ : Exchange η σ) topic = id from rfl,
          Option.map_id_fun]
        exact hafter

theorem settles_unsubscribe {exchange : Exchange η σ} {other : String}
    (hoperation : exchange.operation = .unsubscribe other) (topic : String) :
    exchange.Settles topic := by
  obtain ⟨session, operation⟩ := exchange
  obtain rfl : operation = .unsubscribe other := hoperation
  rcases Session.unsubscribe_cases other session with ⟨fault, hfault, heq⟩ | ⟨packet, -, hsending⟩
  · refine settles_of_refused ?_ hfault topic rfl
    show Session.replying _ (session.unsubscribe other) = _
    rw [heq]
    rfl
  · have hafter : (session.unsubscribe other).2.client.subscriptions.get? topic
        = if topic = other then none else session.client.subscriptions.get? topic := by
      rw [hsending.subscriptions_eq]
      exact Subscriptions.get?_erase other session.client.subscriptions topic
    by_cases htopic : topic = other
    · rw [if_pos htopic] at hafter
      obtain rfl := htopic
      exact .withdrawn ⟨rfl, takesEffect_of_sending hsending rfl⟩ hafter
    · rw [if_neg htopic] at hafter
      refine .kept (spares_of_operation nofun ?_) ?_
      · intro hsame
        exact htopic (Operation.unsubscribe.inj hsame).symm
      · rw [show change (⟨session, .unsubscribe other⟩ : Exchange η σ) topic = id from rfl,
          Option.map_id_fun]
        exact hafter

theorem settles_poll {exchange : Exchange η σ} {timeoutMs : UInt32} {now : Nat}
    (hoperation : exchange.operation = .poll timeoutMs now) (topic : String) :
    exchange.Settles topic := by
  obtain ⟨-, hafter⟩ := poll_outcome hoperation
  have hspares : exchange.Spares topic := by
    refine spares_of_operation ?_ ?_ <;> rw [hoperation] <;> exact nofun
  have hchange : exchange.change topic
      = MessageHandler.takeAll topic (Traffic.handed exchange.events) := by
    rw [change, hoperation]
  refine .kept hspares ?_
  rw [hchange]
  by_cases hready : exchange.before.client.isReady = true
  · have hcourse := Session.poll_course timeoutMs now hready
    rw [← hafter] at hcourse
    obtain ⟨course⟩ := hcourse
    rw [Exchange.events_eq course.events_eq, course.handed_events]
    exact course.notified topic
  · rw [Session.poll_not_ready timeoutMs now hready] at hafter
    rw [events_of_after_eq hafter, hafter]
    exact Client.Notified.nil rfl topic

/-- **What one exchange does to the handler of one topic.** -/
theorem registry_step (exchange : Exchange η σ) (h : exchange.before.client.Sound)
    (topic : String) : exchange.Settles topic := by
  obtain ⟨session, operation⟩ := exchange
  cases operation with
  | subscribe other handler => exact settles_subscribe rfl topic
  | unsubscribe other => exact settles_unsubscribe rfl topic
  | poll timeoutMs now => exact settles_poll rfl topic
  | connect remote useTls =>
    refine settles_of_eq (spares_of_operation nofun nofun) rfl ?_
    show (session.connect remote useTls).2.client.subscriptions = session.client.subscriptions
    rcases Session.connect_cases remote useTls session with
      ⟨fault, heq⟩ | ⟨fault, line, heq⟩ | ⟨line, heq⟩
    · rw [heq]
    · rw [heq]; rfl
    · rw [heq]; rfl
  | disconnect =>
    refine settles_of_eq (spares_of_operation nofun nofun) rfl ?_
    show session.disconnect.2.client.subscriptions = session.client.subscriptions
    rcases Session.disconnect_cases session with heq | ⟨line, heq⟩
    · rw [heq]
    · rw [heq]; rfl
  | publish other payload qos retain now =>
    exact settles_of_eq (spares_of_operation nofun nofun) rfl
      (Session.publish_publishing other payload qos retain now h.next_ne_zero).subscriptions_eq
  | adjust other change =>
    refine .kept (spares_of_operation nofun nofun) ?_
    show (session.client.subscriptions.modify other change).get? topic
      = (session.client.subscriptions.get? topic).map (if other = topic then change else id)
    rw [Subscriptions.get?_modify]
    by_cases htopic : topic = other
    · rw [if_pos htopic, if_pos htopic.symm]
    · rw [if_neg htopic, if_neg (Ne.symm htopic), Option.map_id_fun]
      rfl
  | outside change => exact settles_of_eq (spares_of_operation nofun nofun) rfl rfl

end Exchange

end Steps

/-! ## §3. Runs. -/

/-- The last subscription to the topic that took effect was never given up, and this is its handler,
after all that has changed it in place since then. -/
def Registered {η σ : Type} [OctetStream σ] [Dialer σ] [MessageHandler η]
    (history : List (Exchange η σ)) (topic : String) (handler : η) : Prop :=
  ∃ first original, first.Enrols topic original ∧ ∃ past later, history = past ++ first :: later
    ∧ (∀ other ∈ later, other.Spares topic)
    ∧ handler = later.foldl (fun handler other => other.change topic handler) original

section Runs

variable {η σ : Type} [OctetStream σ] [Dialer σ] [MessageHandler η]

theorem not_registered_nil (topic : String) (handler : η) :
    ¬ Registered ([] : List (Exchange η σ)) topic handler := by
  rintro ⟨first, original, -, past, later, heq, -⟩
  simp at heq

/-- **The last exchange decides** where it enrols or withdraws; otherwise it changes the handler in
place at most. -/
theorem registered_concat (history : List (Exchange η σ)) (last : Exchange η σ) (topic : String)
    (handler : η) :
    Registered (history ++ [last]) topic handler
      ↔ last.Enrols topic handler
        ∨ last.Spares topic ∧ ∃ old, Registered history topic old
          ∧ handler = last.change topic old := by
  constructor
  · rintro ⟨first, original, henrols, past, later, hsplit, hspares, rfl⟩
    rcases eq_last_or_split hsplit with ⟨rfl, rfl, rfl⟩ | ⟨later, rfl, rfl⟩
    · exact .inl henrols
    · obtain ⟨hlater, hlast⟩ := List.forall_mem_append.mp hspares
      refine .inr ⟨hlast last (List.mem_singleton.mpr rfl), _,
        ⟨first, original, henrols, past, later, rfl, hlater, rfl⟩, ?_⟩
      rw [List.foldl_append, List.foldl_cons, List.foldl_nil]
  · rintro (henrols | ⟨hlast, old, ⟨first, original, henrols, past, later, rfl, hlater, rfl⟩, rfl⟩)
    · exact ⟨last, handler, henrols, history, [], rfl, nofun, rfl⟩
    · refine ⟨first, original, henrols, past, later ++ [last], by simp,
        List.forall_mem_append.mpr ⟨hlater, List.forall_mem_singleton.mpr hlast⟩, ?_⟩
      rw [List.foldl_append, List.foldl_cons, List.foldl_nil]

/-- A table that holds what is registered before an exchange does so after it. -/
theorem registry_concat {history : List (Exchange η σ)} {last : Exchange η σ} {topic : String}
    (hsettles : last.Settles topic)
    (hbefore : ∀ old, last.before.client.subscriptions.get? topic = some old
      ↔ Registered history topic old) (handler : η) :
    last.after.client.subscriptions.get? topic = some handler
      ↔ Registered (history ++ [last]) topic handler := by
  rw [registered_concat]
  cases hsettles with
  | enrolled henrols hafter =>
    rw [hafter]
    constructor
    · intro hsame
      rw [← Option.some.inj hsame]
      exact .inl henrols
    · rintro (hother | ⟨hspares, -⟩)
      · rw [henrols.inj hother]
      · exact absurd henrols (hspares.1 _)
  | withdrawn hwithdraws hafter =>
    rw [hafter]
    refine ⟨nofun, ?_⟩
    rintro (hother | ⟨hspares, -⟩)
    · cases hwithdraws.1.symm.trans hother.1
    · exact absurd hwithdraws hspares.2
  | kept hspares hafter =>
    rw [hafter, Option.map_eq_some_iff]
    constructor
    · rintro ⟨old, hold, rfl⟩
      exact .inr ⟨hspares, old, (hbefore old).mp hold, rfl⟩
    · rintro (hother | ⟨-, old, hregistered, rfl⟩)
      · exact absurd hother (hspares.1 _)
      · exact ⟨old, (hbefore old).mpr hregistered, rfl⟩

/-- **The table holds what is registered.** -/
theorem get?_eq_some_iff_registered {options : Options} {client : Client η}
    (h : Client.ofOptions options = .ok client) (line : Line σ)
    (operations : List (Operation η σ)) (topic : String) (handler : η) :
    ((⟨client, line⟩ : Session η σ).run operations).client.subscriptions.get? topic = some handler
      ↔ Registered ((⟨client, line⟩ : Session η σ).history operations) topic handler := by
  refine (Endpoint.history_induction (motive := fun history (session : Session η σ) =>
    session.client.Sound ∧ ∀ handler,
      session.client.subscriptions.get? topic = some handler ↔ Registered history topic handler)
    ⟨.ofOptions h, fun handler => ?_⟩ ?_ operations).2 handler
  · have hnone : client.subscriptions.get? topic = none := by
      rw [(Client.tables_ofOptions h).1, Subscriptions.get?_empty]
    show client.subscriptions.get? topic = some handler ↔ _
    rw [hnone]
    exact ⟨nofun, fun hregistered => (not_registered_nil topic handler hregistered).elim⟩
  · rintro history last ⟨hsound, hregistered⟩
    exact ⟨Session.apply_sound last.before last.operation hsound,
      registry_concat (Exchange.registry_step last hsound topic) hregistered⟩

theorem MessageHandler.takeAll_of_notMem {topic : String} {messages : List (String × Octets)}
    (h : ∀ payload, (topic, payload) ∉ messages) (handler : η) :
    MessageHandler.takeAll topic messages handler = handler := by
  induction messages with
  | nil => rfl
  | cons first messages ih =>
    have hother : first.1 ≠ topic := by
      rintro rfl
      exact h first.2 List.mem_cons_self
    rw [MessageHandler.takeAll, List.foldl_cons, if_neg hother]
    exact ih fun payload hmem => h payload (List.mem_cons_of_mem _ hmem)

/-- Without a change by the program and without a message of the topic from a poll, its handler
stays as it is. -/
theorem Exchange.change_eq {exchange : Exchange η σ} {topic : String}
    (hadjust : ∀ change, exchange.operation ≠ .adjust topic change)
    (hhanded : ∀ timeoutMs now, exchange.operation = .poll timeoutMs now →
      ∀ payload, (topic, payload) ∉ Traffic.handed exchange.events) (handler : η) :
    exchange.change topic handler = handler := by
  unfold Exchange.change
  cases hoperation : exchange.operation with
  | adjust other change =>
    have hother : other ≠ topic := by
      rintro rfl
      exact hadjust change hoperation
    dsimp only
    rw [if_neg hother]
    rfl
  | poll timeoutMs now =>
    exact MessageHandler.takeAll_of_notMem (hhanded timeoutMs now hoperation) handler
  | _ => rfl

end Runs

/-! ## §4. Room for another topic. -/

section Capacity

variable {η σ : Type} [OctetStream σ]

/-- A subscription that the table has room for can only fail to reach the broker. -/
theorem subscribe_capacity {session : Session η σ} (hready : session.client.isReady = true)
    {key : Topic} (htopic : isTopic key.text = true) (handler : η) :
    (session.client.subscriptions.insert? key handler = none
        ∧ (session.subscribe key.text handler).1 = .error .capacityExceeded)
      ∨ (session.client.subscriptions.insert? key handler ≠ none
        ∧ ((session.subscribe key.text handler).1 = .ok ()
          ∨ (session.subscribe key.text handler).1 = .error .writeFailed)) := by
  have hholds := ((Client.isReady_iff _).mp hready).2
  rcases Session.subscribe_checked hready htopic handler with ⟨hnone, heq⟩ | ⟨table, htable, heq⟩
  · exact .inl ⟨hnone, by rw [heq]⟩
  · have hpacket := Packet.subscribe_eq htopic session.client.allocate.1
    rw [heq, htable]
    exact .inr ⟨nofun, (Session.sendNumbered_sending
      { session with client := { session.client with subscriptions := table } } hholds
      hpacket).result_cases⟩

end Capacity

/-! ## §5. The registry. -/

section Registry

variable {η σ : Type} [OctetStream σ] [Dialer σ] [MessageHandler η]

/-- **The registry is a map in which the last writer wins**, after every run from a new client,
whatever the operations return and whatever the platform does.  What it holds for a topic is the
handler of the last subscription to the topic that succeeded or could only not be written, if none
was given up in the same way after it, with all that the program and the messages of the topic have
made of the handler since.  An exchange that does none of this leaves the topic as it is, whatever
becomes of the connection.  There are at most eight topics, and with a connection a subscription to
a valid topic is refused for want of room if and only if there are eight others. -/
theorem registry_last_writer {options : Options} {client : Client η}
    (h : Client.ofOptions options = .ok client) (line : Line σ)
    (operations : List (Operation η σ)) :
    let start : Session η σ := ⟨client, line⟩
    let history := start.history operations
    let session := start.run operations
    let subscriptions := session.client.subscriptions
    (∀ topic handler, subscriptions.get? topic = some handler ↔ Registered history topic handler)
      ∧ (∀ exchange ∈ history, ∀ topic, exchange.Spares topic →
        (∀ change, exchange.operation ≠ .adjust topic change) →
        (∀ timeoutMs now, exchange.operation = .poll timeoutMs now →
          ∀ payload, (topic, payload) ∉ Traffic.handed exchange.events) →
        exchange.after.client.subscriptions.get? topic
          = exchange.before.client.subscriptions.get? topic)
      ∧ subscriptions.size ≤ 8
      ∧ (session.client.isConnected = true → ∀ topic handler, isTopic topic = true →
        let result := (session.subscribe topic handler).1
        (result = .error .capacityExceeded ↔ (subscriptions.keys.filter (· ≠ topic)).length = 8)
          ∧ (subscriptions.contains topic = true →
            result = .ok () ∨ result = .error .writeFailed)) := by
  intro start history session subscriptions
  refine ⟨get?_eq_some_iff_registered h line operations, ?_, subscriptions.size_le, ?_⟩
  · -- ===== what leaves a topic as it is =====
    intro exchange hmem topic hspares hadjust hhanded
    have hsound := Session.history_sound h line operations hmem
    cases exchange.registry_step hsound topic with
    | enrolled henrols hafter => exact absurd henrols (hspares.1 _)
    | withdrawn hwithdraws hafter => exact absurd hwithdraws hspares.2
    | kept _ hafter =>
      have hsame : exchange.change topic = id :=
        funext fun handler => Exchange.change_eq hadjust hhanded handler
      rw [hafter, hsame, Option.map_id_fun]
      rfl
  · -- ===== what is refused for want of room =====
    intro hconnected topic handler htopic result
    have hsound := Session.run_sound h line operations
    have hready := hsound.isReady_iff.mpr (hsound.isConnected_iff.mp hconnected)
    obtain ⟨key, rfl⟩ := Topic.exists_of_isTopic htopic
    have hroom := Subscriptions.insert?_eq_none_iff_others key handler subscriptions
    rcases subscribe_capacity hready htopic handler with ⟨hnone, hfull⟩ | ⟨hsome, hsent⟩
    · refine ⟨⟨fun _ => hroom.mp hnone, fun _ => hfull⟩, fun hcontains => ?_⟩
      have hnew := ((Subscriptions.insert?_eq_none_iff _ _ _).mp hnone).1
      cases hnew.symm.trans hcontains
    · refine ⟨⟨fun hfull => ?_, fun hothers => absurd (hroom.mpr hothers) hsome⟩, fun _ => hsent⟩
      rcases hsent with hok | hfailed
      · cases hok.symm.trans hfull
      · cases hfailed.symm.trans hfull

end Registry

namespace Specimen

/-- Topic `a` gets another handler and then a message; topic `b` is given up. -/
def resubscribing : List (Operation Mailbox Wire) :=
  [.connect broker false, .subscribe "a" {}, .subscribe "b" {}, .unsubscribe "b",
    .subscribe "a" ⟨[[7]]⟩, .poll 10 1]

end Specimen

/-- The second handler of topic `a` is registered, with the message that it got, and none of topic
`b` is. -/
theorem registry_last_writer_specimen :
    let start : Session Mailbox Wire :=
      ⟨Specimen.client, Specimen.line [.chunk Specimen.asking.octets]⟩
    let history := start.history Specimen.resubscribing
    Client.ofOptions Specimen.options = .ok Specimen.client
      ∧ Registered history "a" ⟨[[7], [9]]⟩ ∧ ∀ handler, ¬ Registered history "b" handler := by
  intro start history
  obtain ⟨hregistered, -⟩ := registry_last_writer Specimen.ofOptions_eq
    (Specimen.line [.chunk Specimen.asking.octets]) Specimen.resubscribing
  generalize hrun : (start.run Specimen.resubscribing).client.subscriptions = table at hregistered
  have hfirst : (table.get? "a").map Mailbox.messages = some [[7], [9]] := by
    rw [← hrun]
    decide +kernel
  have hsecond : table.get? "b" = none := by
    rw [← hrun, ← Option.isNone_iff_eq_none]
    decide +kernel
  obtain ⟨⟨messages⟩, hget, hmessages⟩ := Option.map_eq_some_iff.mp hfirst
  obtain rfl : messages = [[7], [9]] := hmessages
  refine ⟨Specimen.ofOptions_eq, (hregistered "a" _).mp hget, fun handler hother => ?_⟩
  cases ((hregistered "b" handler).mpr hother).symm.trans hsecond

end FieldLink.Mqtt
