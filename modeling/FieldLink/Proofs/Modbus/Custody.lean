/-
  FieldLink.Proofs.Modbus.Custody
  ────────────────────────────────
  **A MASTER CLOSES WHAT IT OPENS.**

  A master comes by a connection in two ways and lets go of it in many: it
  is asked to, it is asked for another one, a serial device cannot be
  configured, or a call finds the stream broken.  Each operation by itself
  leaves the log in order, and the flag of the log is the state of the
  master:

      hangUp_custody      — the old connection goes first
      connectTcp_custody,
      connectRtu_custody  — the new one, or none
      apply_custody       — one operation
      run_custody         — every run from a master without a connection
-/
import FieldLink.Proofs.History
import FieldLink.Proofs.Line.Custody
import FieldLink.Proofs.Modbus.Breakdown

namespace FieldLink.Modbus

section Opening

variable {σ : Type} [OctetStream σ]

theorem hangUp_isConnected (session : Session σ) : session.hangUp.master.isConnected = false := by
  rw [Master.isConnected, hangUp_connection]
  rfl

/-- An open connection is closed, and behind it there is none. -/
theorem hangUp_custody (session : Session σ) :
    session.line.InCustody session.master.isConnected false session.hangUp.line := by
  unfold Session.hangUp
  cases hconnected : session.master.isConnected with
  | true => exact .of_event (Line.events_close session.line) rfl
  | false => exact .refl false session.line

theorem connectTcp_custody [Dialer σ] (remote : Remote) (session : Session σ) :
    session.line.InCustody session.master.isConnected
      (session.connectTcp remote).2.master.isConnected (session.connectTcp remote).2.line := by
  unfold Session.connectTcp
  split
  · exact .refl _ session.line
  · next address haddress =>
    have hdial := Line.events_dial address session.hangUp.line
    dsimp only
    split
    · next line heq =>
      rw [heq] at hdial
      rw [hangUp_isConnected]
      exact (hangUp_custody session).trans (.of_event hdial rfl)
    · next line heq =>
      rw [heq] at hdial
      exact (hangUp_custody session).trans (.of_event hdial rfl)

/-- A serial device that cannot be configured is closed again. -/
theorem connectRtu_custody [SerialBus σ] (path : String) (config : Serial.Config)
    (session : Session σ) :
    session.line.InCustody session.master.isConnected
      (session.connectRtu path config).2.master.isConnected
      (session.connectRtu path config).2.line := by
  unfold Session.connectRtu
  split
  · exact .refl _ session.line
  · have hlist := Line.events_enumerate session.hangUp.line
    have hlisted := (hangUp_custody session).trans (.of_event hlist rfl)
    dsimp only
    split
    · next line heq =>
      rw [heq] at hlisted
      rw [hangUp_isConnected]
      exact hlisted
    · next devices line heq =>
      rw [heq] at hlisted
      split
      · rw [hangUp_isConnected]
        exact hlisted
      · next device hfound =>
        have hdevice := Line.events_openDevice device line
        split
        · next line' heq' =>
          rw [heq'] at hdevice
          rw [hangUp_isConnected]
          exact hlisted.trans (.of_event hdevice rfl)
        · next line' heq' =>
          rw [heq'] at hdevice
          have hopened : Line.InCustody session.master.isConnected session.line true line' :=
            hlisted.trans (.of_event hdevice rfl)
          have hconfigure := Line.events_configure config line'
          have hsettled : Event.IsSettled (.configured config
              (Line.faultOf (line'.configure config).1)) := ⟨rfl, rfl⟩
          have hconfigured := hopened.trans (.of_event hconfigure (hsettled.custody_eq true))
          split
          · next fault line'' heq'' =>
            rw [heq''] at hconfigured
            rw [hangUp_isConnected]
            exact hconfigured.trans (.of_event (Line.events_close line'') rfl)
          · next line'' heq'' =>
            rw [heq''] at hconfigured
            exact hconfigured

end Opening

section Calls

variable {σ : Type} [OctetStream σ] [Dialer σ] [SerialBus σ]

/-- Without a connection a call leaves the session as it is. -/
theorem apply_closed {session : Session σ} (hclosed : session.master.connection = none)
    {operation : Operation σ} (hcall : operation.IsCall) :
    (session.apply operation).2 = session := by
  by_cases hrequest : operation.IsRequest
  · cases apply_request session hrequest with
    | refused hfault hnone heq => rw [heq]
    | made hasks hsome heq =>
      rw [heq, Session.exchange, buildRequest_none hclosed]
      rfl
  · cases operation with
    | buildRequest function data =>
      rw [Session.apply, buildRequest_none hclosed]
      rfl
    | sendRequest frame =>
      show (session.sendRequest frame).2 = session
      unfold Session.sendRequest
      rw [Master.isConnected, hclosed]
      rfl
    | receiveResponse timeoutMs =>
      show (session.receiveResponse timeoutMs).2 = session
      unfold Session.receiveResponse
      rw [hclosed]
    | read | write | writeCoils | writeRegisters => exact absurd trivial hrequest
    | _ => exact hcall.elim

/-- A call uses the connection that is there, and closes it once or not at all. -/
theorem call_custody (session : Session σ) {operation : Operation σ} (hcall : operation.IsCall) :
    session.line.InCustody session.master.isConnected
      (session.apply operation).2.master.isConnected (session.apply operation).2.line := by
  cases hconnection : session.master.connection with
  | none =>
    rw [apply_closed hconnection hcall]
    exact .refl _ session.line
  | some framing =>
    have hconduct := apply_conduct hconnection hcall
    have hopen : session.master.isConnected = true := by
      rw [Master.isConnected, hconnection]
      rfl
    rw [hopen]
    generalize session.apply operation = outcome at hconduct
    cases hconduct with
    | kept hlog hused hopen' hsound =>
      rw [Master.isConnected, hopen']
      exact ⟨_, hlog, .settled (fun event hevent => (hused event hevent).isSettled) true⟩
    | lost hlog hused hclosed hbroken =>
      rw [Master.isConnected, hclosed]
      have hsettled := Custody.settled (fun event hevent => (hused event hevent).isSettled) true
      exact ⟨_, hlog, hsettled.append (.of_event rfl)⟩

/-- **One operation leaves the log in order.** -/
theorem apply_custody (session : Session σ) (operation : Operation σ) :
    session.line.InCustody session.master.isConnected
      (session.apply operation).2.master.isConnected (session.apply operation).2.line := by
  by_cases hcall : operation.IsCall
  · exact call_custody session hcall
  · cases operation with
    | connectTcp remote => exact connectTcp_custody remote session
    | connectRtu path config => exact connectRtu_custody path config session
    | disconnect =>
      show session.line.InCustody session.master.isConnected
        session.disconnect.2.master.isConnected session.disconnect.2.line
      unfold Session.disconnect
      split
      · show session.line.InCustody _ session.hangUp.master.isConnected session.hangUp.line
        rw [hangUp_isConnected]
        exact hangUp_custody session
      · exact .refl _ session.line
    | setUnit unit => exact .refl _ session.line
    | outside change => exact ⟨[], (List.append_nil _).symm, .nil _⟩
    | _ => exact absurd trivial hcall

/-- **So does every run.** -/
theorem run_custody (session : Session σ) (operations : List (Operation σ)) :
    session.line.InCustody session.master.isConnected
      (session.run operations).master.isConnected (session.run operations).line :=
  Endpoint.run_induction
    (motive := fun reached =>
      session.line.InCustody session.master.isConnected reached.master.isConnected reached.line)
    (fun reached operation h => h.trans (apply_custody reached operation))
    (.refl _ session.line) operations

end Calls

end FieldLink.Modbus
