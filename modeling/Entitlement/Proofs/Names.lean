import Entitlement.Decision
import Entitlement.Logging.Format
import Entitlement.User
import Mathlib.Data.List.Nodup

/-! # Names

Keys, states, reasons and formats are written by their names. Different ones have different
names, so a name stands for one of them. -/

namespace Entitlement

theorem find?_name_eq_some_iff {κ : Type} {all : List κ} {name : κ → String}
    (complete : ∀ key, key ∈ all) (distinct : (all.map name).Nodup) (text : String) (key : κ) :
    all.find? (name · == text) = some key ↔ name key = text := by
  constructor
  · intro found
    simpa using List.find?_some found
  · intro named
    rcases found : all.find? (name · == text) with _ | other
    · exact absurd named (by simpa using List.find?_eq_none.mp found key (complete key))
    · have otherNamed : name other = text := by simpa using List.find?_some found
      rw [List.inj_on_of_nodup_map distinct (complete other) (complete key)
        (otherNamed.trans named.symm)]

theorem RoleKey.ofName?_eq_some_iff (text : String) (key : RoleKey) :
    ofName? text = some key ↔ key.name = text :=
  find?_name_eq_some_iff mem_all (by decide) text key

theorem PermissionKey.ofName?_eq_some_iff (text : String) (key : PermissionKey) :
    ofName? text = some key ↔ key.name = text :=
  find?_name_eq_some_iff mem_all (by decide) text key

theorem UserStatus.ofName?_eq_some_iff (text : String) (status : UserStatus) :
    ofName? text = some status ↔ status.name = text :=
  find?_name_eq_some_iff mem_all (by decide) text status

theorem GrantReason.ofName?_eq_some_iff (text : String) (reason : GrantReason) :
    ofName? text = some reason ↔ reason.name = text :=
  find?_name_eq_some_iff (fun reason => by cases reason <;> decide) (by decide) text reason

theorem Logging.Format.ofName?_eq_some_iff (text : String) (format : Logging.Format) :
    ofName? text = some format ↔ format.name = text :=
  find?_name_eq_some_iff (fun format => by cases format <;> decide) (by decide) text format

end Entitlement
