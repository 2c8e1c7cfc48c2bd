import Grader.Document.Basic
import Grader.Quota.Record

/-! The documents of quotas, usages and quota records. -/
namespace Grader

open Json

def Quota.fields : Fields Quota :=
  Fields.pure Quota.mk
    |>.apply (.required "service" .service)
    |>.apply (.required "max_requests" .uint32)
    |>.apply (.required "window_minutes" .int64)
    |>.apply (.required "current_count" .uint32)
    |>.apply (.required "window_started_at" .instant)
    |>.apply (.required "last_request_at" .instant)

instance : Document Quota where
  toJson q := .record <|
    field "service" (.text q.service.name) ++
    field "max_requests" (.nat q.maxRequests.toNat) ++
    field "window_minutes" (.int q.windowMinutes.toInt) ++
    field "current_count" (.nat q.count.toNat) ++
    field "window_started_at" (.text q.startedAt.documentText) ++
    field "last_request_at" (.text q.lastRequestAt.documentText)
  decoder := Quota.fields.decode

def Usage.fields : Fields Usage :=
  Fields.pure Usage.mk
    |>.apply (.required "service" .service)
    |>.apply (.required "remaining_use" .uint32)
    |>.apply (.required "reset_at" .instant)
    |>.apply (.required "limit_per_hour" .uint32)

instance : Document Usage where
  toJson u := .record <|
    field "service" (.text u.service.name) ++
    field "remaining_use" (.nat u.remaining.toNat) ++
    field "reset_at" (.text u.resetAt.documentText) ++
    field "limit_per_hour" (.nat u.limit.toNat)
  decoder := Usage.fields.decode

def QuotaRecord.fields : Fields QuotaRecord :=
  Fields.pure QuotaRecord.mk
    |>.apply (.required "user_id" .text)
    |>.apply (.required "username" .text)
    |>.apply (.required "is_admin" .bool)
    |>.apply (.required "services" (.list Quota.fields.decode))
    |>.apply (.required "created_at" .instant)
    |>.apply (.required "updated_at" .instant)

instance : Document QuotaRecord where
  toJson r := .record <|
    field "user_id" (.text r.userId) ++
    field "username" (.text r.username) ++
    field "is_admin" (.bool r.isAdmin) ++
    field "services" (.list (r.quotas.map Document.toJson)) ++
    field "created_at" (.text r.createdAt.documentText) ++
    field "updated_at" (.text r.updatedAt.documentText)
  decoder := QuotaRecord.fields.decode

end Grader
