import Tether.Dialer.Fixed
import Tether.Dialer.Scripted

/-!
The dialer of a scenario: it either hands out one fixed connection, with failures to order, or
follows a script.
-/

namespace Tether

inductive StagedDialer where
  | fixed (dialer : FixedDialer String)
  | scripted (dialer : ScriptedDialer String)

namespace StagedDialer

instance : Dialer StagedDialer String where
  launch
    | id, fixed d =>
      let launch := Dialer.launch id d
      { ticket := launch.ticket, delay := launch.delay, dialer := fixed launch.dialer }
    | id, scripted d =>
      let launch := Dialer.launch id d
      { ticket := launch.ticket, delay := launch.delay, dialer := scripted launch.dialer }
  land
    | id, ticket, fixed d =>
      let (answer, d) := Dialer.land id ticket d
      (answer, fixed d)
    | id, ticket, scripted d =>
      let (answer, d) := Dialer.land id ticket d
      (answer, scripted d)

end StagedDialer

end Tether
