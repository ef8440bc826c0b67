import MediastorageProxy.Cpp
import MediastorageProxy.Xml
import MediastorageProxy.DataContainer
import MediastorageProxy.Collaborators
import MediastorageProxy.Proxy
import MediastorageProxy.Url
import MediastorageProxy.Upload
import MediastorageProxy.Get
import MediastorageProxy.Delete
import MediastorageProxy.DownloadInfo
import MediastorageProxy.Monitoring
import MediastorageProxy.Run
import MediastorageProxy.Config
import MediastorageProxy.Initialize
import MediastorageProxy.Bodies
