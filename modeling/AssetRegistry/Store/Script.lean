import AssetRegistry.Store.Dialogue

namespace AssetRegistry.Store

/-- A store that answers from a script: the replies are given beforehand, one for each statement, and the first attempts
to begin and to commit may be made to fail. -/
structure Script where
  replies : List Reply
  beginFault : Option Fault := none
  commitFault : Option Fault := none

/-- The answer when the script has no more replies. -/
def Script.exhausted : Fault := ⟨"XX000", "script exhausted", none⟩

/-- The success of a message that returns nothing. -/
def acknowledged : Reply := .affected 0

/-- The answer to a message, and the script from there on. -/
def Script.answer (script : Script) : Message → Reply × Script
  | .begin => (script.beginFault.elim acknowledged .failed, { script with beginFault := none })
  | .commit => (script.commitFault.elim acknowledged .failed, { script with commitFault := none })
  | .rollback => (acknowledged, script)
  | .statement _ =>
    match script.replies with
    | [] => (.failed Script.exhausted, script)
    | reply :: replies => (reply, { script with replies })

/-- The result of a dialogue, all messages sent in order, and the script that is left. -/
def Dialogue.play {α : Type} : Dialogue α → Script → α × List Message × Script
  | .done a, script => (a, [], script)
  | .send m next, script =>
    let (reply, script) := script.answer m
    let (a, sent, script) := (next reply).play script
    (a, m :: sent, script)

end AssetRegistry.Store
