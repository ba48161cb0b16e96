/-
  FieldLink.Proofs.Modbus.Simulation
  ────────────────────────────────
  **THE SAME MASTER ON LINES THAT IT CANNOT TELL APART.**

  Over TCP a master uses whole transfers alone, so one master on two
  related lines does the same on both.  A serial line is left out: there
  one read is one frame, and the pieces in which octets arrive decide what
  a frame is.

      receiveTcp_agree      — a header and its unit
      receiveResponse_agree — a response over TCP
      exchange_agree        — a request and its response
      apply_agree           — one operation that opens no serial line
-/
import FieldLink.Proofs.Line.Simulation
import FieldLink.Proofs.Modbus.Calls

namespace FieldLink.Modbus

/-! ## §1. Calls. -/

namespace Session

/-- One master on two related lines, and not on a serial one. -/
inductive Alike {σ : Type} (ρ : Line σ → Line σ → Prop) : Session σ → Session σ → Prop where
  /-- The master is the same. -/
  | intro {master : Master} {line line' : Line σ} (hnetwork : master.connection ≠ some .rtu)
      (h : ρ line line') : Alike ρ ⟨master, line⟩ ⟨master, line'⟩

variable {σ : Type} {ρ : Line σ → Line σ → Prop} {session session' : Session σ}

theorem Alike.master_eq (h : Alike ρ session session') : session.master = session'.master := by
  cases h
  rfl

theorem buildRequest_agree [OctetStream σ] (function : UInt8) (data : Octets)
    (h : Alike ρ session session') :
    Agree (Alike ρ) (session.buildRequest function data) (session'.buildRequest function data) := by
  cases h with
  | @intro master line line' hnetwork hline =>
    unfold buildRequest
    rcases hconnection : master.connection with - | - | -
    · exact .intro _ (.intro hnetwork hline)
    · refine .intro _ (.intro ?_ hline)
      show master.connection ≠ _
      exact hnetwork
    · exact absurd hconnection hnetwork

section Calls

variable [OctetStream σ] [Dialer σ] {same : σ → σ → Prop}

theorem hangUp_agree (hsim : Simulation same ρ) (h : Alike ρ session session') :
    Alike ρ session.hangUp session'.hangUp := by
  cases h with
  | @intro master line line' hnetwork hline =>
    unfold hangUp
    by_cases hconnected : master.isConnected = true
    · rw [if_pos hconnected, if_pos hconnected]
      exact .intro nofun (hsim.close hline)
    · rw [if_neg hconnected, if_neg hconnected]
      exact .intro hnetwork hline

theorem lose_agree {α : Type} (hsim : Simulation same ρ) (fault : Fault)
    (h : Alike ρ session session') :
    Agree (Alike ρ) (session.lose fault : Except Fault α × Session σ) (session'.lose fault) :=
  .intro _ (hangUp_agree hsim h)

theorem connectTcp_agree (hsim : Simulation same ρ) (remote : Remote)
    (h : Alike ρ session session') :
    Agree (Alike ρ) (session.connectTcp remote) (session'.connectTcp remote) := by
  unfold connectTcp
  cases remote.address with
  | error fault => exact .intro _ h
  | ok address =>
    have hgone := hangUp_agree hsim h
    generalize session.hangUp = gone, session'.hangUp = gone' at hgone
    cases hgone with
    | intro hnetwork hline =>
      obtain ⟨worked, rest, rest', hdial, hdial', hrest⟩ := hsim.dial address hline
      dsimp only
      rw [hdial, hdial']
      cases worked with
      | false => exact .intro _ (.intro hnetwork hrest)
      | true => exact .intro _ (.intro nofun hrest)

theorem disconnect_agree (hsim : Simulation same ρ) (h : Alike ρ session session') :
    Agree (Alike ρ) session.disconnect session'.disconnect := by
  unfold disconnect
  rw [← h.master_eq]
  by_cases hconnected : session.master.isConnected = true
  · rw [if_pos hconnected, if_pos hconnected]
    exact .intro _ (hangUp_agree hsim h)
  · rw [if_neg hconnected, if_neg hconnected]
    exact .intro _ h

theorem sendRequest_agree (hsim : Simulation same ρ) (frame : Octets)
    (h : Alike ρ session session') :
    Agree (Alike ρ) (session.sendRequest frame) (session'.sendRequest frame) := by
  cases h with
  | @intro master line line' hnetwork hline =>
    unfold sendRequest
    by_cases hconnected : master.isConnected = true
    · rw [if_pos hconnected, if_pos hconnected]
      obtain ⟨result, rest, rest', hwrite, hwrite', hrest⟩ := hsim.writeAll frame hline
      dsimp only
      rw [hwrite, hwrite']
      cases result with
      | error fault => exact lose_agree hsim fault (.intro hnetwork hrest)
      | ok done => exact .intro _ (.intro hnetwork hrest)
    · rw [if_neg hconnected, if_neg hconnected]
      exact .intro _ (.intro hnetwork hline)

/-- **A header and its unit** are two whole reads. -/
theorem receiveTcp_agree (hsim : Simulation same ρ) {line line' : Line σ}
    (h : ρ line line') : Agree ρ (receiveTcp line) (receiveTcp line') := by
  unfold receiveTcp
  obtain ⟨result, rest, rest', hread, hread', hrest⟩ := hsim.readExact tcpHeaderLength h
  rw [hread, hread']
  cases result with
  | error fault => exact .intro _ hrest
  | ok octets =>
    dsimp only
    cases Frame.header octets with
    | error fault => exact .intro _ hrest
    | ok header =>
      obtain ⟨result, rest, rest', hread, hread', hrest⟩ := hsim.readExact header.length hrest
      dsimp only
      rw [hread, hread']
      cases result with
      | error fault => exact .intro _ hrest
      | ok pdu => exact .intro _ hrest

theorem receiveResponse_agree (hsim : Simulation same ρ) (timeoutMs : UInt32)
    (h : Alike ρ session session') :
    Agree (Alike ρ) (session.receiveResponse timeoutMs) (session'.receiveResponse timeoutMs) := by
  cases h with
  | @intro master line line' hnetwork hline =>
    unfold receiveResponse
    dsimp only
    rcases hconnection : master.connection with - | - | -
    · exact .intro _ (.intro hnetwork hline)
    · obtain ⟨bounded, rest, rest', hwait, hwait', hrest⟩ := hsim.setTimeout timeoutMs hline
      dsimp only
      rw [hwait, hwait']
      cases bounded with
      | false => exact lose_agree hsim _ (.intro hnetwork hrest)
      | true =>
        obtain ⟨result, rest, rest', hreceive, hreceive', hrest⟩ := receiveTcp_agree hsim hrest
        dsimp only
        rw [hreceive, hreceive']
        -- a response is checked against the master alone, which is the same
        rcases result with fault | ⟨transaction, response⟩
        · exact lose_agree hsim fault (.intro hnetwork hrest)
        · dsimp only
          by_cases hnumber : transaction = master.transaction
          · rw [if_pos hnumber, if_pos hnumber]
            exact .intro _ (.intro hnetwork hrest)
          · rw [if_neg hnumber, if_neg hnumber]
            exact .intro _ (.intro hnetwork hrest)
    · exact absurd hconnection hnetwork

/-- **A request and its response** are the same, whatever comes of them. -/
theorem exchange_agree (hsim : Simulation same ρ) (function : UInt8) (data : Octets)
    (h : Alike ρ session session') :
    Agree (Alike ρ) (session.exchange function data) (session'.exchange function data) := by
  unfold exchange
  obtain ⟨result, built, built', hbuild, hbuild', hbuilt⟩ := buildRequest_agree function data h
  rw [hbuild, hbuild']
  cases result with
  | error fault => exact .intro _ hbuilt
  | ok frame =>
    obtain ⟨result, sent, sent', hsend, hsend', hsent⟩ := sendRequest_agree hsim frame hbuilt
    dsimp only
    rw [hsend, hsend']
    cases result with
    | error fault => exact .intro _ hsent
    | ok done =>
      obtain ⟨result, after, after', hreceive, hreceive', hafter⟩ :=
        receiveResponse_agree hsim defaultTimeoutMs hsent
      dsimp only
      rw [hreceive, hreceive']
      cases result with
      | error fault => exact .intro _ hafter
      | ok response =>
        dsimp only
        cases response.exception? with
        | some fault => exact .intro _ hafter
        | none =>
          dsimp only
          rw [← hafter.master_eq]
          by_cases hown : response.function = function ∧ response.unit = after.master.unit
          · rw [if_pos hown, if_pos hown]
            exact .intro _ hafter
          · rw [if_neg hown, if_neg hown]
            exact .intro _ hafter

theorem read_agree (hsim : Simulation same ρ) (table : DataTable) (address quantity : UInt16)
    (h : Alike ρ session session') :
    Agree (Alike ρ) (session.read table address quantity)
      (session'.read table address quantity) := by
  unfold read
  by_cases hrange : quantity = 0 ∨ table.maxRead < quantity.toNat
  · rw [if_pos hrange, if_pos hrange]
    exact .intro _ h
  · rw [if_neg hrange, if_neg hrange]
    exact exchange_agree hsim _ _ h

theorem confirm_agree (hsim : Simulation same ρ) (function : UInt8) (data : Except Fault Octets)
    (h : Alike ρ session session') :
    Agree (Alike ρ) (session.confirm function data) (session'.confirm function data) := by
  unfold confirm
  cases data with
  | error fault => exact .intro _ h
  | ok data =>
    obtain ⟨result, after, after', hexchange, hexchange', hafter⟩ :=
      exchange_agree hsim function data h
    dsimp only
    rw [hexchange, hexchange']
    cases result with
    | error fault => exact .intro _ hafter
    | ok response => exact .intro _ hafter

theorem write_agree (hsim : Simulation same ρ) (table : DataTable) (address : UInt16)
    (values : Octets) (h : Alike ρ session session') :
    Agree (Alike ρ) (session.write table address values)
      (session'.write table address values) := by
  unfold write
  cases table.writeFunction with
  | none => exact .intro _ h
  | some function => exact confirm_agree hsim function _ h

theorem writeRegisters_agree (hsim : Simulation same ρ) (address : UInt16)
    (registers : List UInt16) (h : Alike ρ session session') :
    Agree (Alike ρ) (session.writeRegisters address registers)
      (session'.writeRegisters address registers) := by
  unfold writeRegisters
  by_cases hlong : maxPduLength - 1 < (registers.flatMap Octets.big).length
  · dsimp only
    rw [if_pos hlong, if_pos hlong]
    exact .intro _ h
  · dsimp only
    rw [if_neg hlong, if_neg hlong]
    exact write_agree hsim .holdingRegisters address _ h

end Calls

end Session

/-! ## §2. Operations. -/

/-- The same operation on both platforms, but for a serial line, or changes that keep what has to
be the same. -/
inductive Operation.Alike {σ : Type} (same : σ → σ → Prop) :
    Operation σ → Operation σ → Prop where
  /-- A call with the same arguments. -/
  | call {operation : Operation σ} (hnetwork : operation.opens? ≠ some .rtu)
      (h : ∀ change, operation ≠ .outside change) : Operation.Alike same operation operation
  /-- Changes of the platforms. -/
  | outside {change change' : σ → σ}
      (h : ∀ {state state'}, same state state' → same (change state) (change' state')) :
      Operation.Alike same (.outside change) (.outside change')

namespace Session

variable {σ : Type} {ρ : Line σ → Line σ → Prop} {session session' : Session σ}

theorem replying_agree {α : Type} (reply : α → Reply)
    {outcome outcome' : Except Fault α × Session σ} (h : Agree (Alike ρ) outcome outcome') :
    Agree (Alike ρ) (replying reply outcome) (replying reply outcome') := by
  obtain ⟨result, rest, rest', rfl, rfl, hrest⟩ := h
  exact .intro _ hrest

variable [OctetStream σ] [Dialer σ] [SerialBus σ] {same : σ → σ → Prop}

/-- **One operation does the same on both lines.** -/
theorem apply_agree (hsim : Simulation same ρ) {operation operation' : Operation σ}
    (hoperation : operation.Alike same operation') (h : Alike ρ session session') :
    Agree (Alike ρ) (session.apply operation) (session'.apply operation') := by
  cases hoperation with
  | outside hchange =>
    cases h with
    | intro hnetwork hline => exact .intro _ (.intro hnetwork (hsim.change hchange hline))
  | call hnetwork hcall =>
    cases operation with
    | connectTcp remote => exact replying_agree _ (connectTcp_agree hsim remote h)
    | connectRtu path config => exact absurd rfl hnetwork
    | disconnect => exact replying_agree _ (disconnect_agree hsim h)
    | setUnit unit =>
      cases h with
      | intro hnetwork hline => exact .intro _ (.intro hnetwork hline)
    | buildRequest function data => exact replying_agree _ (buildRequest_agree function data h)
    | sendRequest frame => exact replying_agree _ (sendRequest_agree hsim frame h)
    | receiveResponse timeoutMs =>
      exact replying_agree _ (receiveResponse_agree hsim timeoutMs h)
    | read table address quantity =>
      exact replying_agree _ (read_agree hsim table address quantity h)
    | write table address values =>
      exact replying_agree _ (write_agree hsim table address values h)
    | writeCoils address coils => exact replying_agree _ (confirm_agree hsim _ _ h)
    | writeRegisters address registers =>
      exact replying_agree _ (writeRegisters_agree hsim address registers h)
    | outside change => exact absurd rfl (hcall change)

end Session

end FieldLink.Modbus
