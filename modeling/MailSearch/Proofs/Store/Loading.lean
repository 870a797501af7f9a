import MailSearch.Proofs.Storage.Reading
import MailSearch.Store.Loading

/-!
# Accounts that are loaded

Loading an account only reads files, those of the snapshot and of its raw
messages, and fails if one of them cannot be read.  So an account that can be
loaded from a folder is loaded from every folder that keeps it, and is the same.
-/

namespace MailSearch
namespace Store

open Storage
open Storage.Folder (OnlyReads Looks access)

theorem onlyReads_orUnreadable
    {α : Type}
    {look : StateM Folder (Except FileError α)}
    (looks : Looks look fun found => ∃ value, found = .ok value)
    (path : String) :
    OnlyReads (orUnreadable path look) :=
  looks.onlyReads_ok (fun _ _ _ => nofun) Folder.onlyReads_pure

theorem onlyReads_loadMessage
    (path : String) :
    OnlyReads (loadMessage access path) := by
  refine (onlyReads_orUnreadable (Folder.looks_read path) path).bind
    fun raw => ?_
  split
  · exact Folder.onlyReads_pure _
  · exact Folder.onlyReads_throw _
  · exact Folder.onlyReads_throw _

theorem onlyReads_loadContent
    (directory : List Char)
    (message : DescribedMessage) :
    OnlyReads (loadContent access directory message) := by
  unfold loadContent
  split
  · exact Folder.onlyReads_pure _
  · exact onlyReads_loadMessage _

/-- The outcome of adding a message is passed on, its state into the loading. -/
theorem onlyReads_added
    (seen : IdSet)
    (added : Except (Stop Query.Error) Unit × Account) :
    OnlyReads (match added with
      | (.ok (), account) => return ⟨seen, account⟩
      | (.error stop, _) => throw stop :
        ExceptT (Stop Query.Error) (StateM Folder) Loading) := by
  obtain ⟨⟨⟩ | stop, account⟩ := added
  · exact Folder.onlyReads_throw _
  · exact Folder.onlyReads_pure _

theorem onlyReads_addDescribed
    (path : String)
    (directory : List Char)
    (loading : Loading)
    (message : DescribedMessage) :
    OnlyReads (addDescribed access path directory loading message) := by
  unfold addDescribed
  extract_lets goOn
  have goesOn : ∀ checked, OnlyReads (goOn checked) := fun _ =>
    (onlyReads_loadContent directory message).bind fun content =>
      onlyReads_added _ _
  split
  · exact (Folder.onlyReads_throw _).bind goesOn
  · exact goesOn ()

/-- Loading an account only reads. -/
theorem onlyReads_loadAccount
    (path : String) :
    OnlyReads (loadAccount access path) := by
  refine (onlyReads_orUnreadable (Folder.looks_readText path) path).bind
    fun text => ?_
  split
  · exact Folder.onlyReads_throw _
  · exact (Folder.onlyReads_foldlM (onlyReads_addDescribed path _) _ _).bind
      fun _ => Folder.onlyReads_pure _

/-- A snapshot that can be loaded is there. -/
theorem leadsSomewhere_of_loadAccount
    {folder : Folder}
    {path : String}
    {account : Account}
    (loads : ((loadAccount access path).run folder).1 = .ok account) :
    folder.leadsSomewhere path = true := by
  cases read : folder.read path with
  | ok bytes =>
      obtain ⟨place, resolves, -⟩ := Folder.read_eq_ok_iff.mp read
      rw [Folder.leadsSomewhere, resolves]
      rfl
  | error cause =>
      have refused : (orUnreadable path (access.readText path)).run folder =
          (.error (.failed (.unreadable path cause)), folder) := by
        rw [orUnreadable, run_lift_bind, Folder.access_readText, read]
        rfl
      rw [loadAccount, run_bind, refused] at loads
      cases loads

end Store
end MailSearch
