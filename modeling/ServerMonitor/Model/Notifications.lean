/-
This file models the notifications of a server and their counts.
-/

import ServerMonitor.Json.Schema

namespace ServerMonitor

open Json

structure NotificationCounts where
  info : UInt32
  warning : UInt32
  alert : UInt32
  total : UInt32
deriving DecidableEq, Inhabited

def NotificationCounts.schema : Schema NotificationCounts where
  shape := .record <|
    .field "info" .word32 <|
    .field "warning" .word32 <|
    .field "alert" .word32 <|
    .field "total" .word32 <|
    .nil
  toParts counts := (counts.info, counts.warning, counts.alert, counts.total, ())
  ofParts := fun (info, warning, alert, total, ()) =>
    { info, warning, alert, total }
  ofParts_toParts _ := rfl

structure NotificationOverview where
  unread : NotificationCounts
  archive : NotificationCounts
deriving DecidableEq, Inhabited

def NotificationOverview.schema : Schema NotificationOverview where
  shape := .record <|
    .field "unread" NotificationCounts.schema.shape <|
    .field "archive" NotificationCounts.schema.shape <|
    .nil
  toParts overview := (NotificationCounts.schema.toParts overview.unread,
    NotificationCounts.schema.toParts overview.archive, ())
  ofParts := fun (unread, archive, ()) =>
    { unread := NotificationCounts.schema.ofParts unread,
      archive := NotificationCounts.schema.ofParts archive }
  ofParts_toParts overview := by simp only [Schema.ofParts_toParts]

structure Notification where
  id : String
  title : Option String
  subject : Option String
  description : Option String
  /-- "alert", "warning" or "info". -/
  importance : String
  timestamp : Instant
  /-- "unread" or "archive". -/
  place : String
deriving DecidableEq, Inhabited

def Notification.schema : Schema Notification where
  shape := .record <|
    .field "id" .text <|
    .field "title" (.optional .text) <|
    .field "subject" (.optional .text) <|
    .field "description" (.optional .text) <|
    .field "importance" .text <|
    .field "timestamp" .instant <|
    .field "type" .text <|
    .nil
  toParts notification := (notification.id, notification.title, notification.subject,
    notification.description, notification.importance, notification.timestamp, notification.place,
    ())
  ofParts := fun (id, title, subject, description, importance, timestamp, place, ()) =>
    { id, title, subject, description, importance, timestamp, place }
  ofParts_toParts _ := rfl

structure Notifications where
  overview : NotificationOverview
  entries : List Notification
  timestamp : Instant
deriving DecidableEq, Inhabited

def Notifications.schema : Schema Notifications where
  shape := .record <|
    .field "overview" NotificationOverview.schema.shape <|
    .field "notifications" Notification.schema.list.shape <|
    .field "timestamp" .instant <|
    .nil
  toParts list := (NotificationOverview.schema.toParts list.overview,
    Notification.schema.list.toParts list.entries, list.timestamp, ())
  ofParts := fun (overview, entries, timestamp, ()) =>
    { overview := NotificationOverview.schema.ofParts overview,
      entries := Notification.schema.list.ofParts entries, timestamp }
  ofParts_toParts list := by simp only [Schema.ofParts_toParts]

end ServerMonitor
