import AnomalyWatch.Proofs.Store.Reopening

/-!
What was committed is there after a restart.
-/

set_option autoImplicit false
set_option relaxedAutoImplicit false

namespace AnomalyWatch

namespace Store

open FileTree (namesOf)
open Journal (Held appendAt openAt)

variable {path : String} {s : Store} {tree tree' : FileTree} {h : History}

end Store

end AnomalyWatch
