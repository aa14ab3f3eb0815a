import Arisa.Crypto.KeyCache
import Arisa.Client.Closing
import Arisa.Client.Isolation
import Arisa.Client.MediaAgreement
import Arisa.Media.Agreement
import Arisa.Media.Durability
import Arisa.Media.Retention
import Arisa.Service.RawQuery
import Arisa.Service.Subscription
import Arisa.Service.Sharing
import Arisa.Service.Bot
import Arisa.Service.Lookups
import Arisa.Database.BatchMessages
import Arisa.Database.BatchUsers
import Arisa.Database.DisplayIds
import Arisa.Database.Embedded
import Arisa.Database.FeedIds
import Arisa.Database.History
import Arisa.Database.Pool
import Arisa.Database.Progress
import Arisa.Database.RowMetadata
import Arisa.Config.Isolation
import Arisa.Control.Lifecycle
import Arisa.Control.Settings
import Arisa.Android.Boot
import Arisa.Android.ContentUri
import Arisa.Credential
import Arisa.Client.Target
