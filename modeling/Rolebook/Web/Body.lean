import Rolebook.Draft
import Rolebook.Json.Reader
import Rolebook.Submission

/-!
The JSON bodies that clients send: drafts of roles and their rules, and submissions. In a draft the
description may be null, and whether the role is super, its rules and a rule's fields may be left out.
-/

namespace Rolebook

open Json (Reader Misfit)
open Json.Reader

def FieldDraft.reader : Reader FieldDraft :=
  record
    [ ⟨"field_name", fun draft => return { draft with field := ← text }, false, false⟩,
      ⟨"access_level", fun draft => return { draft with level := ← text }, false, false⟩ ]
    ⟨"", ""⟩

def RuleDraft.reader : Reader RuleDraft :=
  record
    [ ⟨"scope", fun draft => return { draft with scope := ← text }, false, false⟩,
      ⟨"access_level", fun draft => return { draft with level := ← text }, false, false⟩,
      ⟨"fields", fun draft => return { draft with fields := ← list FieldDraft.reader }, true, true⟩ ]
    ⟨"", "", []⟩

def RoleDraft.reader : Reader RoleDraft :=
  record
    [ ⟨"name", fun draft => return { draft with name := ← text }, false, false⟩,
      ⟨"description", fun draft => return { draft with description := ← optional text }, true, false⟩,
      ⟨"is_super", fun draft => return { draft with isSuper := ← bool }, true, true⟩,
      ⟨"rules", fun draft => return { draft with rules := ← list RuleDraft.reader }, true, true⟩ ]
    ⟨"", none, false, []⟩

/-- A submission as an object of strings, in which the last of several members of one name counts. -/
def Submission.reader : Reader Submission :=
  object (.empty : Submission) fun key submission =>
    return submission.insert key (← memberValue text)

def RoleDraft.ofJson (content : String) : Except Misfit RoleDraft :=
  readAll RoleDraft.reader content

def Submission.ofJson (content : String) : Except Misfit Submission :=
  readAll Submission.reader content

end Rolebook
